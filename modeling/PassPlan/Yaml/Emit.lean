import PassPlan.Yaml.Token
/-!
Writing YAML text from a stream of emitter events. The emitter is a state machine over the
events of one document: block and flow collections, scalars in the five styles, anchors,
aliases, tags and comments. A scalar's style is chosen from what its text allows: plain when
no indicator, leading or trailing space, break or special character forbids it, then single
quotes, then double quotes with escapes; block styles only outside flow context and keys.
Indentation is two columns a level; lines are never folded.
-/
namespace PassPlan.Yaml

/-- Events the emitter writes; the stream around the document is implied. -/
inductive Piece where
  | documentStart
  | documentEnd
  | scalar (anchor tag value : String) (implicit quotedImplicit : Bool) (style : ScalarStyle)
  | sequenceStart (anchor tag : String) (implicit flow : Bool)
  | sequenceEnd
  | mappingStart (anchor tag : String) (implicit flow : Bool)
  | mappingEnd
  | aliasRef (anchor : String)
deriving Inhabited, Repr

/-- An event with its comments. -/
structure Emitted where
  piece : Piece
  notes : Notes := {}
deriving Inhabited, Repr

/-- The places of the emitter. -/
inductive EmitState where
  | documentStart
  | documentContent
  | documentEnd
  | flowSequenceFirstItem
  | flowSequenceTrailItem
  | flowSequenceItem
  | flowMappingFirstKey
  | flowMappingTrailKey
  | flowMappingKey
  | flowMappingSimpleValue
  | flowMappingValue
  | blockSequenceFirstItem
  | blockSequenceItem
  | blockMappingFirstKey
  | blockMappingKey
  | blockMappingSimpleValue
  | blockMappingValue
  | finished
deriving DecidableEq, Inhabited, Repr

/-- What the text of a scalar allows. -/
structure ScalarAnalysis where
  multiline : Bool := false
  flowPlain : Bool := true
  blockPlain : Bool := true
  singleQuoted : Bool := true
  block : Bool := true
deriving Inhabited

/-- The emitter's state. -/
structure Emitter where
  out : Array Char := #[]
  state : EmitState := .documentStart
  states : List EmitState := []
  indent : Int := -1
  indents : List Int := []
  flowLevel : Nat := 0
  rootContext : Bool := false
  sequenceContext : Bool := false
  mappingContext : Bool := false
  simpleKeyContext : Bool := false
  column : Nat := 0
  whitespace : Bool := true
  indention : Bool := true
  openEnded : Bool := false
  footIndent : Int := -1
  head : String := ""
  line : String := ""
  foot : String := ""
  tail : String := ""
  keyLine : String := ""
  anchor : String := ""
  isAlias : Bool := false
  tagHandle : String := ""
  tagSuffix : String := ""
  value : List Char := []
  analysis : ScalarAnalysis := {}
  style : ScalarStyle := .plain
deriving Inhabited

/-- Emitting steps. -/
abbrev EmitM := StateM Emitter

/-- The indentation step. -/
def bestIndent : Nat := 2

/-- Line breaks the emitter recognises in text. -/
def isBreakChar (c : Char) : Bool :=
  c = '\n' || c = '\r' || c = Char.ofNat 0x85 || c = Char.ofNat 0x2028 || c = Char.ofNat 0x2029

/-- Characters the emitter writes as they are. -/
def isPrintableChar (c : Char) : Bool :=
  let n := c.toNat
  n = 0x0A || (0x20 ≤ n && n ≤ 0x7E) || (0xA0 ≤ n && n ≤ 0xD7FF) ||
    (0xE000 ≤ n && n ≤ 0xFFFD && n ≠ 0xFEFF)

namespace Emitter

def put (c : Char) : EmitM Unit :=
  modify fun e => { e with out := e.out.push c, column := e.column + 1 }

def putBreak : EmitM Unit :=
  modify fun e => { e with out := e.out.push '\n', column := 0, indention := true }

/-- Writes one character of text; a break other than a newline moves to a new line. -/
def writeBreak (c : Char) : EmitM Unit :=
  if c = '\n' then putBreak
  else modify fun e => { e with out := e.out.push c, column := 0, indention := true }

def putSpaces (n : Nat) : EmitM Unit :=
  modify fun e => { e with out := e.out ++ (List.replicate n ' ').toArray, column := e.column + n }

def writeIndent : EmitM Unit := do
  let e ← get
  let indent : Int := if e.indent < 0 then 0 else e.indent
  if !e.indention || (e.column : Int) > indent || ((e.column : Int) = indent && !e.whitespace) then
    putBreak
  if (← get).footIndent = indent then putBreak
  let col := (← get).column
  if (col : Int) < indent then putSpaces (indent.toNat - col)
  modify fun e => { e with whitespace := true, footIndent := -1 }

def writeIndicator (s : String) (needSpace isSpace isIndention : Bool) : EmitM Unit := do
  if needSpace && !(← get).whitespace then put ' '
  for c in s.toList do put c
  modify fun e => { e with whitespace := isSpace, indention := e.indention && isIndention,
                           openEnded := false }

/-- Writes a comment, a `#` opening each of its lines that lacks one, and ends the line. -/
def writeComment (comment : String) : EmitM Unit := do
  let mut breaks := false
  let mut pound := false
  for c in comment.toList do
    if isBreakChar c then
      writeBreak c
      breaks := true
      pound := false
    else
      if breaks then writeIndent
      if !pound then
        if c ≠ '#' then put '#'; put ' '
        pound := true
      put c
      modify fun e => { e with indention := false }
      breaks := false
  if !breaks then putBreak
  modify fun e => { e with whitespace := true }

def processHeadComment : EmitM Unit := do
  let e ← get
  if e.tail ≠ "" then
    writeIndent
    writeComment e.tail
    modify fun e => { e with tail := "", footIndent := if e.indent < 0 then 0 else e.indent }
  let e ← get
  if e.head ≠ "" then
    writeIndent
    writeComment e.head
    modify fun e => { e with head := "" }

def processLineComment (lineBreak : Bool := false) : EmitM Unit := do
  let e ← get
  if e.line = "" then
    if lineBreak then putBreak
  else
    if !e.whitespace then put ' '
    writeComment e.line
    modify fun e => { e with line := "" }

def processFootComment : EmitM Unit := do
  let e ← get
  if e.foot ≠ "" then
    writeIndent
    writeComment e.foot
    modify fun e => { e with foot := "", footIndent := if e.indent < 0 then 0 else e.indent }

def increaseIndent (flow indentless : Bool) : EmitM Unit :=
  modify fun e =>
    let indents := e.indent :: e.indents
    let indent :=
      if e.indent < 0 then (if flow then (bestIndent : Int) else 0)
      else if indentless then e.indent
      else if e.states.head? = some .blockSequenceItem then e.indent + 2
      else bestIndent * ((e.indent + bestIndent) / bestIndent)
    { e with indents, indent }

def popIndent : EmitM Unit :=
  modify fun e => match e.indents with
    | i :: rest => { e with indent := i, indents := rest }
    | [] => e

def popState : EmitM Unit :=
  modify fun e => match e.states with
    | s :: rest => { e with state := s, states := rest }
    | [] => e

def pushState (s : EmitState) : EmitM Unit := modify fun e => { e with states := s :: e.states }

def setState (s : EmitState) : EmitM Unit := modify fun e => { e with state := s }

/-- Whether a scalar text is empty of everything but the content allowed plain. -/
def analyzeScalar (value : List Char) : ScalarAnalysis :=
  if value.isEmpty then
    { multiline := false, flowPlain := false, blockPlain := true, singleQuoted := true, block := false }
  else
    let arr := value.toArray
    let size := arr.size
    let charAt (i : Nat) : Char := arr.getD i (Char.ofNat 0)
    let isBlankAt (i : Nat) : Bool := i ≥ size || charAt i = ' ' || charAt i = '\t'
    let dashes := size ≥ 3 && ((charAt 0 = '-' && charAt 1 = '-' && charAt 2 = '-') || (charAt 0 = '.' && charAt 1 = '.' && charAt 2 = '.'))
    let init := (dashes, dashes, false, false, false, false, false, false, false, false, false, true,
      false, false)
    let step := fun (acc : Bool × Bool × Bool × Bool × Bool × Bool × Bool × Bool × Bool × Bool ×
        Bool × Bool × Bool × Bool) (i : Nat) =>
      let (blockInd, flowInd, breaks, special, tabs, leadSpace, leadBreak, trailSpace, trailBreak,
        breakSpace, spaceBreak, preceded, prevSpace, prevBreak) := acc
      let c := charAt i
      let followed := isBlankAt (i + 1)
      let (flowInd, blockInd) :=
        if i = 0 then
          if "#,[]\x7b\x7d&*!|>'\"%@`".toList.contains c then (true, true)
          else if c = '?' || c = ':' then (true, blockInd || followed)
          else if c = '-' && followed then (true, true)
          else (flowInd, blockInd)
        else
          if ",?[]\x7b\x7d".toList.contains c then (true, blockInd)
          else if c = ':' then (true, blockInd || followed)
          else if c = '#' && preceded then (true, true)
          else (flowInd, blockInd)
      let (tabs, special) :=
        if c = '\t' then (true, special) else if !isPrintableChar c then (tabs, true) else (tabs, special)
      let last := i + 1 = size
      let (breaks, leadSpace, leadBreak, trailSpace, trailBreak, breakSpace, spaceBreak, prevSpace,
          prevBreak) :=
        if c = ' ' then
          (breaks, leadSpace || i = 0, leadBreak, trailSpace || last, trailBreak,
            breakSpace || prevBreak, spaceBreak, true, false)
        else if isBreakChar c then
          (true, leadSpace, leadBreak || i = 0, trailSpace, trailBreak || last, breakSpace,
            spaceBreak || prevSpace, false, true)
        else (breaks, leadSpace, leadBreak, trailSpace, trailBreak, breakSpace, spaceBreak, false, false)
      let preceded := c = ' ' || c = '\t' || c = Char.ofNat 0 || isBreakChar c
      (blockInd, flowInd, breaks, special, tabs, leadSpace, leadBreak, trailSpace, trailBreak,
        breakSpace, spaceBreak, preceded, prevSpace, prevBreak)
    let (blockInd, flowInd, breaks, special, tabs, leadSpace, leadBreak, trailSpace, trailBreak,
      breakSpace, spaceBreak, _, _, _) := (List.range size).foldl step init
    let edge := leadSpace || leadBreak || trailSpace || trailBreak
    let noQuote := breakSpace || spaceBreak || tabs || special
    { multiline := breaks
      flowPlain := !(edge || noQuote || breaks || flowInd)
      blockPlain := !(edge || noQuote || breaks || blockInd)
      singleQuoted := !noQuote
      block := !(trailSpace || spaceBreak || special) }

/-- The handle and suffix of a tag under the standard directives. -/
def tagParts (tag : String) : String × String :=
  if tag.startsWith "tag:yaml.org,2002:" then ("!!", String.ofList (tag.toList.drop 18))
  else if tag.startsWith "!" then ("!", String.ofList (tag.toList.drop 1))
  else ("", tag)

/-- Takes in an event: its comments, anchor, tag and, for a scalar, what its text allows. -/
def analyze (ev : Emitted) : EmitM Unit := do
  modify fun e => { e with
    anchor := "", isAlias := false, tagHandle := "", tagSuffix := "", value := []
    head := if ev.notes.head ≠ "" then ev.notes.head else e.head
    line := if ev.notes.line ≠ "" then ev.notes.line else e.line
    foot := if ev.notes.foot ≠ "" then ev.notes.foot else e.foot
    tail := if ev.notes.tail ≠ "" then ev.notes.tail else e.tail }
  let setTag (tag : String) : EmitM Unit :=
    let (h, s) := tagParts tag
    modify fun e => { e with tagHandle := h, tagSuffix := s }
  match ev.piece with
  | .aliasRef a => modify fun e => { e with anchor := a, isAlias := true }
  | .scalar a tag v implicit quoted _ =>
    modify fun e => { e with anchor := a }
    if tag ≠ "" && !implicit && !quoted then setTag tag
    modify fun e => { e with value := v.toList, analysis := analyzeScalar v.toList }
  | .sequenceStart a tag implicit _ | .mappingStart a tag implicit _ =>
    modify fun e => { e with anchor := a }
    if tag ≠ "" && !implicit then setTag tag
  | _ => pure ()

def processAnchor : EmitM Unit := do
  let e ← get
  if e.anchor ≠ "" then
    writeIndicator (if e.isAlias then "*" else "&") true false false
    for c in e.anchor.toList do put c
    modify fun e => { e with whitespace := false, indention := false }

def processTag : EmitM Unit := do
  let e ← get
  if e.tagHandle = "" && e.tagSuffix = "" then return
  if e.tagHandle ≠ "" then
    if !e.whitespace then put ' '
    for c in e.tagHandle.toList do put c
    for c in e.tagSuffix.toList do put c
    modify fun e => { e with whitespace := false, indention := false }
  else
    writeIndicator "!<" true false false
    for c in e.tagSuffix.toList do put c
    writeIndicator ">" false false false

def selectStyle (ev : Piece) : EmitM Unit := do
  let e ← get
  match ev with
  | .scalar _ _ _ implicit quoted requested =>
    let noTag := e.tagHandle = "" && e.tagSuffix = ""
    let a := e.analysis
    let style := if e.simpleKeyContext && a.multiline then ScalarStyle.doubleQuoted else requested
    let style :=
      if style = .plain then
        let s := if (e.flowLevel > 0 && !a.flowPlain) || (e.flowLevel = 0 && !a.blockPlain) then .singleQuoted else style
        let s := if e.value.isEmpty && (e.flowLevel > 0 || e.simpleKeyContext) then .singleQuoted else s
        if noTag && !implicit then .singleQuoted else s
      else style
    let style := if style = .singleQuoted && !a.singleQuoted then .doubleQuoted else style
    let style :=
      if (style = .literal || style = .folded) && (!a.block || e.flowLevel > 0 || e.simpleKeyContext) then
        .doubleQuoted
      else style
    if noTag && !quoted && style ≠ .plain then modify fun e => { e with tagHandle := "!" }
    modify fun e => { e with style }
  | _ => pure ()

def writePlain (value : List Char) : EmitM Unit := do
  if !value.isEmpty && !(← get).whitespace then put ' '
  let mut breaks := false
  for c in value do
    if c = ' ' then put c
    else if isBreakChar c then
      if !breaks && c = '\n' then putBreak
      writeBreak c
      breaks := true
    else
      if breaks then writeIndent
      put c
      modify fun e => { e with indention := false }
      breaks := false
  modify fun e => { e with
    whitespace := if value.isEmpty then e.whitespace else false
    indention := false
    openEnded := if e.rootContext then true else e.openEnded }

def writeSingle (value : List Char) : EmitM Unit := do
  writeIndicator "'" true false false
  let mut breaks := false
  for c in value do
    if c = ' ' then put c
    else if isBreakChar c then
      if !breaks && c = '\n' then putBreak
      writeBreak c
      breaks := true
    else
      if breaks then writeIndent
      if c = '\'' then put '\''
      put c
      modify fun e => { e with indention := false }
      breaks := false
  writeIndicator "'" false false false
  modify fun e => { e with whitespace := false, indention := false }

/-- The hexadecimal digits of a number, upper case, at least `w` of them. -/
def hexDigits (n w : Nat) : List Char :=
  (List.range w).reverse.map fun k =>
    let d := n / Nat.pow 16 k % 16
    if d < 10 then Char.ofNat (48 + d) else Char.ofNat (55 + d)

def writeDouble (value : List Char) : EmitM Unit := do
  writeIndicator "\"" true false false
  for c in value do
    let n := c.toNat
    if !isPrintableChar c || n = 0xFEFF || isBreakChar c || c = '"' || c = '\\' then
      put '\\'
      match n with
      | 0x00 => put '0'
      | 0x07 => put 'a'
      | 0x08 => put 'b'
      | 0x09 => put 't'
      | 0x0A => put 'n'
      | 0x0B => put 'v'
      | 0x0C => put 'f'
      | 0x0D => put 'r'
      | 0x1B => put 'e'
      | 0x22 => put '"'
      | 0x5C => put '\\'
      | 0x85 => put 'N'
      | 0xA0 => put '_'
      | 0x2028 => put 'L'
      | 0x2029 => put 'P'
      | _ =>
        if n ≤ 0xFF then do put 'x'; for d in hexDigits n 2 do put d
        else if n ≤ 0xFFFF then do put 'u'; for d in hexDigits n 4 do put d
        else do put 'U'; for d in hexDigits n 8 do put d
    else put c
  writeIndicator "\"" false false false
  modify fun e => { e with whitespace := false, indention := false }

/-- The indentation and chomping indicators a block scalar needs. -/
def blockHints (value : List Char) : EmitM Unit := do
  match value with
  | c :: _ => if c = ' ' || isBreakChar c then writeIndicator (toString bestIndent) false false false
  | [] => pure ()
  modify fun e => { e with openEnded := false }
  let rev := value.reverse
  match rev with
  | [] => writeIndicator "-" false false false
  | last :: before =>
    if !isBreakChar last then writeIndicator "-" false false false
    else match before with
      | [] =>
        writeIndicator "+" false false false
        modify fun e => { e with openEnded := true }
      | prev :: _ =>
        if isBreakChar prev then
          writeIndicator "+" false false false
          modify fun e => { e with openEnded := true }

def writeLiteral (value : List Char) : EmitM Unit := do
  writeIndicator "|" true false false
  blockHints value
  processLineComment true
  modify fun e => { e with whitespace := true }
  let mut breaks := true
  for c in value do
    if isBreakChar c then
      writeBreak c
      breaks := true
    else
      if breaks then writeIndent
      put c
      modify fun e => { e with indention := false }
      breaks := false

def writeFolded (value : List Char) : EmitM Unit := do
  writeIndicator ">" true false false
  blockHints value
  processLineComment true
  modify fun e => { e with whitespace := true }
  let mut breaks := true
  let mut leading := true
  let startsBlank := match value.dropWhile isBreakChar with
    | [] => true
    | c :: _ => c = ' ' || c = '\t' || isBreakChar c
  for c in value do
    if isBreakChar c then
      if !breaks && !leading && c = '\n' && !startsBlank then putBreak
      writeBreak c
      breaks := true
    else
      if breaks then
        writeIndent
        leading := c = ' ' || c = '\t'
      put c
      modify fun e => { e with indention := false }
      breaks := false

def processScalar : EmitM Unit := do
  let e ← get
  match e.style with
  | .plain => writePlain e.value
  | .singleQuoted => writeSingle e.value
  | .doubleQuoted => writeDouble e.value
  | .literal => writeLiteral e.value
  | .folded => writeFolded e.value

/-- Whether the event after this one closes the collection it opens. -/
def emptyAhead (ev : Piece) (next : Option Piece) : Bool :=
  match ev, next with
  | .sequenceStart .., some .sequenceEnd => true
  | .mappingStart .., some .mappingEnd => true
  | _, _ => false

/-- Whether a node can be written as a simple key. -/
def simpleKey (ev : Piece) (next : Option Piece) : EmitM Bool := do
  let e ← get
  let tagLen := e.tagHandle.length + e.tagSuffix.length
  match ev with
  | .aliasRef _ => pure (e.anchor.utf8ByteSize ≤ 128)
  | .scalar .. =>
    if e.analysis.multiline then pure false
    else pure (e.anchor.utf8ByteSize + tagLen + (String.ofList e.value).utf8ByteSize ≤ 128)
  | .sequenceStart .. | .mappingStart .. =>
    pure (emptyAhead ev next && e.anchor.utf8ByteSize + tagLen ≤ 128)
  | _ => pure false

def emitNode (ev : Piece) (next : Option Piece) (root sequence mapping key : Bool) : EmitM Unit := do
  modify fun e => { e with rootContext := root, sequenceContext := sequence, mappingContext := mapping,
                           simpleKeyContext := key }
  match ev with
  | .aliasRef _ =>
    processAnchor
    if (← get).simpleKeyContext then put ' '
    popState
  | .scalar .. =>
    selectStyle ev
    processAnchor
    processTag
    increaseIndent true false
    processScalar
    popIndent
    popState
  | .sequenceStart _ _ _ flow =>
    processAnchor
    processTag
    let e ← get
    setState (if e.flowLevel > 0 || flow || emptyAhead ev next then .flowSequenceFirstItem
      else .blockSequenceFirstItem)
  | .mappingStart _ _ _ flow =>
    processAnchor
    processTag
    let e ← get
    setState (if e.flowLevel > 0 || flow || emptyAhead ev next then .flowMappingFirstKey
      else .blockMappingFirstKey)
  | _ => pure ()

def hasTrailing : EmitM Bool := do
  let e ← get
  pure (e.line ≠ "" || e.foot ≠ "" || e.tail ≠ "")

/-- Handles one event in the current state. -/
def step (ev : Piece) (next : Option Piece) : EmitM Unit := do
  match (← get).state with
  | .documentStart =>
    match ev with
    | .documentStart =>
      if (← get).head ≠ "" then
        processHeadComment
        putBreak
      setState .documentContent
    | _ => pure ()
  | .documentContent =>
    pushState .documentEnd
    processHeadComment
    emitNode ev next true false false false
    processLineComment
    processFootComment
  | .documentEnd =>
    modify fun e => { e with footIndent := 0 }
    processFootComment
    modify fun e => { e with footIndent := -1 }
    writeIndent
    setState .finished
  | .flowSequenceFirstItem | .flowSequenceItem | .flowSequenceTrailItem =>
    let st := (← get).state
    let first := st = .flowSequenceFirstItem
    let trail := st = .flowSequenceTrailItem
    if first then
      writeIndicator "[" true true false
      increaseIndent true false
      modify fun e => { e with flowLevel := e.flowLevel + 1 }
    match ev with
    | .sequenceEnd =>
      modify fun e => { e with flowLevel := e.flowLevel - 1 }
      popIndent
      if (← get).column = 0 then writeIndent
      writeIndicator "]" false false false
      processLineComment
      processFootComment
      popState
    | _ =>
      if !first && !trail then writeIndicator "," false false false
      processHeadComment
      if (← get).column = 0 then writeIndent
      pushState (if ← hasTrailing then .flowSequenceTrailItem else .flowSequenceItem)
      emitNode ev next false true false false
      if ← hasTrailing then writeIndicator "," false false false
      processLineComment
      processFootComment
  | .flowMappingFirstKey | .flowMappingKey | .flowMappingTrailKey =>
    let st := (← get).state
    let first := st = .flowMappingFirstKey
    let trail := st = .flowMappingTrailKey
    if first then
      writeIndicator "\x7b" true true false
      increaseIndent true false
      modify fun e => { e with flowLevel := e.flowLevel + 1 }
    match ev with
    | .mappingEnd =>
      let e ← get
      if (e.head ≠ "" || e.foot ≠ "" || e.tail ≠ "") && !first && !trail then
        writeIndicator "," false false false
      processHeadComment
      modify fun e => { e with flowLevel := e.flowLevel - 1 }
      popIndent
      writeIndicator "\x7d" false false false
      processLineComment
      processFootComment
      popState
    | _ =>
      if !first && !trail then writeIndicator "," false false false
      processHeadComment
      if (← get).column = 0 then writeIndent
      if ← simpleKey ev next then
        pushState .flowMappingSimpleValue
        emitNode ev next false false true true
      else
        writeIndicator "?" true false false
        pushState .flowMappingValue
        emitNode ev next false false true false
  | .flowMappingSimpleValue | .flowMappingValue =>
    if (← get).state = .flowMappingSimpleValue then writeIndicator ":" false false false
    else writeIndicator ":" true false false
    pushState (if ← hasTrailing then .flowMappingTrailKey else .flowMappingKey)
    emitNode ev next false false true false
    if ← hasTrailing then writeIndicator "," false false false
    processLineComment
    processFootComment
  | .blockSequenceFirstItem | .blockSequenceItem =>
    if (← get).state = .blockSequenceFirstItem then increaseIndent false false
    match ev with
    | .sequenceEnd =>
      popIndent
      popState
    | _ =>
      processHeadComment
      writeIndent
      writeIndicator "-" true false true
      pushState .blockSequenceItem
      emitNode ev next false true false false
      processLineComment
      processFootComment
  | .blockMappingFirstKey | .blockMappingKey =>
    if (← get).state = .blockMappingFirstKey then increaseIndent false false
    processHeadComment
    match ev with
    | .mappingEnd =>
      popIndent
      popState
    | _ =>
      writeIndent
      let e ← get
      if e.line ≠ "" then modify fun e => { e with keyLine := e.line, line := "" }
      if ← simpleKey ev next then
        pushState .blockMappingSimpleValue
        emitNode ev next false false true true
      else
        writeIndicator "?" true false true
        pushState .blockMappingValue
        emitNode ev next false false true false
  | .blockMappingSimpleValue | .blockMappingValue =>
    if (← get).state = .blockMappingSimpleValue then writeIndicator ":" false false false
    else
      writeIndent
      writeIndicator ":" true false true
    let e ← get
    if e.keyLine ≠ "" then
      match ev with
      | .scalar .. =>
        if e.line = "" then modify fun e => { e with line := e.keyLine, keyLine := "" }
      | .mappingStart _ _ _ false | .sequenceStart _ _ _ false =>
        modify fun e => { e with line := e.keyLine, keyLine := e.line }
        processLineComment
        modify fun e => { e with line := e.keyLine, keyLine := e.line }
      | _ => pure ()
    pushState .blockMappingKey
    emitNode ev next false false true false
    processLineComment
    processFootComment
  | .finished => pure ()

/-- Emits the events of one document. -/
def run (events : List Emitted) : EmitM Unit := do
  let rec go : List Emitted → EmitM Unit
    | [] => pure ()
    | ev :: rest => do
      analyze ev
      step ev.piece (rest.head?.map (·.piece))
      go rest
  go events

end Emitter

/-- The text of one document given by its events. -/
def emitDocument (events : List Emitted) : String :=
  String.ofList ((Emitter.run events).run {}).2.out.toList

end PassPlan.Yaml
