import PassPlan.Yaml.Token
/-!
The YAML scanner: text to tokens. It tracks the indentation of block collections, opening
and closing them as columns change, and remembers where a plain or quoted scalar could be an
implicit key, inserting the key token there once a colon shows it was one. Tokens are handed
out one at a time; a token that could still become a key is held back until that is decided,
and two more tokens are always read ahead.

Every loop of the scanner consumes a character per round, so each carries fuel of the text's
length.
-/
namespace PassPlan.Yaml

/-- A place where an implicit key could start. -/
structure SimpleKey where
  possible : Bool := false
  required : Bool := false
  tokenNumber : Nat := 0
  mark : Mark := {}
deriving Repr, Inhabited

/-- The scanner's state. -/
structure Scanner where
  input : Array Char
  mark : Mark := {}
  /-- Tokens read but not yet handed out, in order. -/
  queue : List Token := []
  /-- How many tokens were handed out. -/
  handed : Nat := 0
  streamStarted : Bool := false
  streamEnded : Bool := false
  indent : Int := -1
  indents : List Int := []
  simpleKeyAllowed : Bool := false
  /-- Possible implicit keys, one per flow level, the innermost first. -/
  simpleKeys : List SimpleKey := []
  flowLevel : Nat := 0
  /-- Line breaks since the last character that is not blank. -/
  newlines : Nat := 0
  /-- The comments read so far; those before `commentsHead` are joined and emptied. -/
  comments : Array Comment := #[]
  commentsHead : Nat := 0
  /-- The last two tokens handed out, the latest first. -/
  taken : List Token := []
  /-- The comments joined so far and not yet given to an event. -/
  headComment : String := ""
  lineComment : String := ""
  footComment : String := ""
deriving Inhabited

/-- Scanning steps. -/
abbrev ScanM := StateT Scanner (Except SyntaxError)

/-- Line breaks: carriage return, line feed, next line, line and paragraph separators. -/
def isBreak (c : Char) : Bool :=
  c = '\r' || c = '\n' || c.toNat = 0x85 || c.toNat = 0x2028 || c.toNat = 0x2029

/-- Space or tab. -/
def isBlank (c : Char) : Bool := c = ' ' || c = '\t'

/-- The end of the text, shown as the NUL character. -/
def isEnd (c : Char) : Bool := c = '\x00'

/-- Blank, break or end. -/
def isBlankEnd (c : Char) : Bool := isBlank c || isBreak c || isEnd c

/-- Break or end. -/
def isBreakEnd (c : Char) : Bool := isBreak c || isEnd c

/-- Letters, digits, underscore and hyphen. -/
def isWordChar (c : Char) : Bool := c.isAlphanum || c = '_' || c = '-'

namespace Scanner

/-- The character `k` places ahead, NUL past the end. -/
def peekAt (k : Nat) : ScanM Char := do
  let s ← get
  pure (s.input.getD (s.mark.index + k) '\x00')

/-- The current character. -/
def cur : ScanM Char := peekAt 0

/-- The current mark. -/
def here : ScanM Mark := do pure (← get).mark

/-- Moves past one character of a line. -/
def skip : ScanM Unit := do
  let c ← cur
  modify fun s => { s with mark := { s.mark with index := s.mark.index + 1, column := s.mark.column + 1 },
                           newlines := if isBlank c then s.newlines else 0 }

/-- Moves past a line break; CR LF counts as one. -/
def skipLine : ScanM Unit := do
  let c ← cur
  let d ← peekAt 1
  if c = '\r' && d = '\n' then
    modify fun s => { s with mark := ⟨s.mark.index + 2, s.mark.line + 1, 0⟩, newlines := s.newlines + 1 }
  else if isBreak c then
    modify fun s => { s with mark := ⟨s.mark.index + 1, s.mark.line + 1, 0⟩, newlines := s.newlines + 1 }

/-- Appends the current character and moves past it. -/
def read (acc : String) : ScanM String := do
  let c ← cur
  skip
  pure (acc.push c)

/-- Appends a line break (a line feed for CR, LF, CR LF and NEL) and moves past it. -/
def readLine (acc : String) : ScanM String := do
  let c ← cur
  let d ← peekAt 1
  let breakTo (width : Nat) : ScanM Unit :=
    modify fun s => { s with mark := ⟨s.mark.index + width, s.mark.line + 1, 0⟩, newlines := s.newlines + 1 }
  if c = '\r' && d = '\n' then
    breakTo 2
    pure (acc.push '\n')
  else if c = '\r' || c = '\n' || c.toNat = 0x85 then
    breakTo 1
    pure (acc.push '\n')
  else if c.toNat = 0x2028 || c.toNat = 0x2029 then
    breakTo 1
    pure (acc.push c)
  else pure acc

/-- Fails with a scanner error at the current mark. -/
def fail {α : Type} (context : String) (contextMark : Mark) (problem : String) : ScanM α := do
  let m ← here
  throw { stage := .scanner, context, contextMark, problem, problemMark := m }

/-- Fuel for a loop over the rest of the text. -/
def fuel : ScanM Nat := do
  let s ← get
  pure (s.input.size + 2 - s.mark.index)

/-- Skips characters while a test holds. -/
def skipWhile (p : Char → Bool) : ScanM Unit := do
  let rec go : Nat → ScanM Unit
    | 0 => pure ()
    | n + 1 => do if p (← cur) then skip; go n
  go (← fuel)

/-- Reads characters while a test holds. -/
def readWhile (p : Char → Bool) (acc : String) : ScanM String := do
  let rec go : Nat → String → ScanM String
    | 0, acc => pure acc
    | n + 1, acc => do if p (← cur) then go n (← read acc) else pure acc
  go (← fuel) acc

/-- Adds a token at a place in the queue, counted in tokens from the stream start, or at
the end. -/
def insertToken (number : Option Nat) (t : Token) : ScanM Unit :=
  modify fun s =>
    match number with
    | some n =>
      let i := n - s.handed
      { s with queue := s.queue.take i ++ t :: s.queue.drop i }
    | none => { s with queue := s.queue ++ [t] }

/-- Adds a token without content at the current mark. -/
def emptyToken (kind : TokenKind) : ScanM Unit := do
  let m ← here
  insertToken none ⟨kind, m, m⟩

/-- Drops the possible key of the current flow level; a required one is an error. -/
def removeSimpleKey : ScanM Unit := do
  let s ← get
  match s.simpleKeys with
  | k :: rest =>
    if k.possible then
      if k.required then fail "while scanning a simple key" k.mark "could not find expected ':'"
      set { s with simpleKeys := { k with possible := false } :: rest }
  | [] => pure ()

/-- Remembers the current place as a possible key, if keys are allowed here. -/
def saveSimpleKey : ScanM Unit := do
  let s ← get
  let required := s.flowLevel == 0 && s.indent == (s.mark.column : Int)
  if s.simpleKeyAllowed then
    let k : SimpleKey := ⟨true, required, s.handed + s.queue.length, s.mark⟩
    removeSimpleKey
    modify fun s => { s with simpleKeys := k :: s.simpleKeys.drop 1 }

/-- Enters a flow collection. -/
def increaseFlowLevel : ScanM Unit := do
  let m ← here
  modify fun s => { s with simpleKeys := { mark := m } :: s.simpleKeys, flowLevel := s.flowLevel + 1 }

/-- Leaves a flow collection. -/
def decreaseFlowLevel : ScanM Unit :=
  modify fun s =>
    if s.flowLevel > 0 then { s with flowLevel := s.flowLevel - 1, simpleKeys := s.simpleKeys.drop 1 }
    else s

/-- Opens a block collection at a column deeper than the current indentation. -/
def rollIndent (column : Int) (number : Option Nat) (kind : TokenKind) (m : Mark) : ScanM Unit := do
  let s ← get
  if s.flowLevel = 0 && s.indent < column then
    set { s with indents := s.indent :: s.indents, indent := column }
    insertToken number ⟨kind, m, m⟩

/-- Where a closing block ends, from the mark of the block closed before it in the same scan:
there, or at the start of the latest foot comment of the scan that is indented as the block's
entries. -/
def blockEndMark (s : Scanner) (start : Mark) : Mark := Id.run do
  let mut mark := start
  let mut stop : Nat := start.index
  for c in s.comments.toList.reverse do
    if c.endMark.index < stop then break
    if (c.startMark.column : Int) = s.indent + 1 then mark := c.startMark
    stop := c.scanMark.index
  pure mark

/-- Closes the block collections deeper than a column, after a scan that began at a mark. -/
def unrollIndent (column : Int) (scanMark : Mark) : ScanM Unit := do
  let rec go : Nat → Mark → ScanM Unit
    | 0, _ => pure ()
    | n + 1, mark => do
      let s ← get
      if s.flowLevel = 0 && s.indent > column then
        let m := blockEndMark s mark
        insertToken none ⟨.blockEnd, m, m⟩
        modify fun s => match s.indents with
          | i :: rest => { s with indent := i, indents := rest }
          | [] => { s with indent := -1 }
        go n m
  go ((← get).indents.length + 1) { scanMark with index := scanMark.index - 1 }

/-- Whether a possible key can still be one; a key that crossed a line or ran past 1024
characters cannot, and an error follows if it was required. -/
def keyStillValid (k : SimpleKey) : ScanM Bool := do
  if !k.possible then return false
  let m ← here
  if k.mark.line < m.line || k.mark.index + 1024 < m.index then
    if k.required then fail "while scanning a simple key" k.mark "could not find expected ':'"
    modify fun s => { s with simpleKeys := s.simpleKeys.map fun j =>
      if j.tokenNumber == k.tokenNumber && j.possible then { j with possible := false } else j }
    return false
  return true

/-- The last two tokens read, the latest first: those still queued, then those handed out. -/
def recentTokens (s : Scanner) : Option Token × Option Token :=
  let all := s.queue.reverse ++ s.taken
  (all[0]?, all[1]?)

/-- Adds a comment to the list. -/
def addComment (c : Comment) : ScanM Unit := modify fun s => { s with comments := s.comments.push c }

/-- Reads from the hash sign at `seen` to the end of its line, skipping what comes before it,
and appends the comment text. -/
def consumeComment (seen : Nat) (text : String) : ScanM String := do
  let rec go : Nat → String → ScanM String
    | 0, text => pure text
    | n + 1, text => do
      let c ← cur
      let m ← here
      if isBreakEnd c then
        if m.index ≥ seen || isEnd c then pure text else skipLine; go n text
      else if m.index ≥ seen then go n (← read text)
      else skip; go n text
  go (← fuel) text

/-- Reads a comment on the rest of the line of a token, to be joined to the token at a mark.
Nothing is read once a line break was passed. -/
def scanLineComment (tokenMark : Mark) : ScanM Unit := do
  if (← get).newlines > 0 then return
  let rec find : Nat → Nat → ScanM (Option Nat)
    | 0, _ => pure none
    | n + 1, k => do
      let c ← peekAt k
      if isBlank c then find n (k + 1) else if c = '#' then pure (some k) else pure none
  match ← find 512 0 with
  | none => pure ()
  | some k =>
    let seen := (← here).index + k
    let rec skipTo : Nat → ScanM Unit
      | 0 => pure ()
      | n + 1 => do if (← here).index < seen then skip; skipTo n
    skipTo (k + 1)
    let startMark ← here
    let text ← consumeComment seen ""
    if text ≠ "" then addComment { tokenMark, startMark, line := text }

/-- Where a run of comment lines is being read. -/
structure CommentScan where
  scanMark : Mark
  tokenMark : Mark
  startMark : Mark := {}
  nextIndent : Int
  recentEmpty : Bool := false
  firstEmpty : Bool
  line : Nat
  column : Nat
  text : String := ""
  footLine : Int
  peek : Nat := 0

/-- Reads the comment lines before the next token. A block of comments right below the
previous token and ended by an empty line, or one less indented than the current block, is
a foot comment of what came before; the rest is a head comment of what follows. -/
def scanComments (scanMark : Mark) : ScanM Unit := do
  let s ← get
  let token : Token := match recentTokens s with
    | (some t, some u) => if t.kind = .flowEntry then u else t
    | (some t, none) => t
    | _ => default
  let m := s.mark
  let footLine : Int :=
    if scanMark.line > 0 then
      (m.line : Int) - s.newlines + 1 + (if s.newlines = 0 && m.column > 1 then 1 else 0)
    else -1
  let st : CommentScan :=
    { scanMark, tokenMark := token.start, nextIndent := max s.indent 0,
      firstEmpty := s.newlines ≤ 1, line := m.line, column := m.column, footLine }
  let isValue := token.kind = .value
  let split (st : CommentScan) (c : Char) : ScanM CommentScan := do
    let idx := (← here).index + st.peek
    let endMark : Mark := ⟨idx, st.line, st.column⟩
    let _ := c
    addComment
      { scanMark := st.scanMark, tokenMark := st.tokenMark, startMark := st.startMark, endMark,
        foot := st.text }
    pure { st with scanMark := endMark, tokenMark := endMark, text := "" }
  let rec go : Nat → CommentScan → ScanM CommentScan
    | 0, st => pure st
    | n + 1, st => do
      if st.peek ≥ 512 then return st
      let st := { st with column := st.column + 1 }
      let c ← peekAt st.peek
      if isBlank c then return ← go n { st with peek := st.peek + 1 }
      let closeFlow := (← get).flowLevel > 0 && (c = ']' || c = '\x7d')
      if closeFlow || isBreakEnd c then
        let mut st := st
        if closeFlow || !st.recentEmpty then
          let dedented := (st.startMark.column : Int) - 1 < st.nextIndent
          if closeFlow || (st.firstEmpty && (((st.startMark.line : Int) = st.footLine && !isValue) || dedented)) then
            if st.text ≠ "" then
              if dedented then st := { st with tokenMark := st.startMark }
              st ← split st c
          else if st.text ≠ "" && !isEnd c then
            st := { st with text := st.text ++ "\n" }
        if !isBreak c then return st
        let st' : CommentScan :=
          { st with firstEmpty := false, recentEmpty := true, column := 0, line := st.line + 1,
                    peek := st.peek + 1 }
        return ← go n st' 
      let mut st := st
      if st.text ≠ "" && ((st.column : Int) - 1 < st.nextIndent && st.column ≠ st.startMark.column) then
        st ← split st c
      if c ≠ '#' then return st
      let idx := (← here).index + st.peek
      st := if st.text = "" then { st with startMark := ⟨idx, st.line, st.column⟩ }
        else { st with text := st.text ++ "\n" }
      let text ← consumeComment idx st.text
      let s ← get
      let st' : CommentScan :=
        { st with text, recentEmpty := false, peek := 1, column := 0, line := s.mark.line,
                  nextIndent := max s.indent 0 }
      go n st' 
  let st ← go ((← fuel) + 1024) st
  if st.text ≠ "" then
    let idx := (← here).index + st.peek
    addComment
      { scanMark := st.scanMark, tokenMark := st.startMark, startMark := st.startMark,
        endMark := ⟨idx - 1, st.line, st.column⟩, head := st.text }

/-- Skips blanks, comments and line breaks up to the next token. Tabs count as blanks only
inside flow collections or where no key may start. -/
def scanToNextToken : ScanM Unit := do
  let scanMark ← here
  let rec go : Nat → ScanM Unit
    | 0 => pure ()
    | n + 1 => do
      let m ← here
      if m.column = 0 && (← cur).toNat = 0xFEFF then skip
      let rec blanks : Nat → ScanM Unit
        | 0 => pure ()
        | k + 1 => do
          let c ← cur
          let s ← get
          if c = ' ' || ((s.flowLevel > 0 || !s.simpleKeyAllowed) && c = '\t') then
            skip; blanks k
      blanks (← fuel)
      let s ← get
      -- a line comment after a lone sequence entry heads what follows it
      if s.comments.size > 0 && s.handed + s.queue.length > 1 then
        match recentTokens s with
        | (some b, some a) =>
          let i := s.comments.size - 1
          let cm := s.comments[i]!
          if a.kind = .blockSequenceStart && b.kind = .blockEntry && cm.line ≠ "" && !isBreak (← cur) then
            let tokenMark := if cm.startMark.line + 1 = s.mark.line then s.mark else cm.tokenMark
            let cm := { cm with head := cm.line, line := "", tokenMark }
            modify fun s => { s with comments := s.comments.set! i cm }
        | _ => pure ()
      if (← cur) = '#' then scanComments scanMark
      if isBreak (← cur) then
        skipLine
        modify fun s => if s.flowLevel = 0 then { s with simpleKeyAllowed := true } else s
        go n
  go (← fuel)

/-! ## Directives, anchors and tags -/

/-- Reads a number of a version directive. -/
def scanVersionNumber (start : Mark) : ScanM Nat := do
  let ds ← readWhile Char.isDigit ""
  if ds.length > 9 then fail "while scanning a %YAML directive" start "found extremely long version number"
  if ds.isEmpty then fail "while scanning a %YAML directive" start "did not find expected version number"
  pure (ds.toNat?.getD 0)

/-- Reads a tag handle: `!`, `!!` or `!word!`. -/
def scanTagHandle (directive : Bool) (start : Mark) : ScanM String := do
  let context := if directive then "while scanning a %TAG directive" else "while scanning a tag"
  if (← cur) ≠ '!' then fail context start "did not find expected '!'"
  let s ← read ""
  let s ← readWhile isWordChar s
  if (← cur) = '!' then read s
  else
    if directive && s ≠ "!" then fail context start "did not find expected '!'"
    pure s

/-- Whether a character may stand in a tag URI; flow indicators only in a verbatim tag. -/
def isUriChar (verbatim : Bool) (c : Char) : Bool :=
  isWordChar c || ";/?:@&=+$.%!~*'()".toList.contains c || (verbatim && ",[]".toList.contains c)

/-- Reads a percent escape of a URI as one byte, and the bytes of a character after it. -/
def scanUriEscapes (directive : Bool) (start : Mark) (acc : String) : ScanM String := do
  let context := if directive then "while parsing a %TAG directive" else "while parsing a tag"
  let hex (c : Char) : Option Nat :=
    if c.isDigit then some (c.toNat - '0'.toNat)
    else if 'a' ≤ c && c ≤ 'f' then some (c.toNat - 'a'.toNat + 10)
    else if 'A' ≤ c && c ≤ 'F' then some (c.toNat - 'A'.toNat + 10)
    else none
  let rec go : Nat → List UInt8 → Nat → ScanM (List UInt8)
    | 0, bytes, _ => pure bytes
    | n + 1, bytes, width => do
      let a ← peekAt 1
      let b ← peekAt 2
      match (← cur), hex a, hex b with
      | '%', some x, some y =>
        let octet := x * 16 + y
        let width' :=
          if width = 0 then
            if octet &&& 0x80 = 0 then 1 else if octet &&& 0xE0 = 0xC0 then 2
            else if octet &&& 0xF0 = 0xE0 then 3 else if octet &&& 0xF8 = 0xF0 then 4 else 0
          else width
        if width = 0 && width' = 0 then fail context start "found an incorrect leading UTF-8 octet"
        if width ≠ 0 && octet &&& 0xC0 ≠ 0x80 then fail context start "found an incorrect trailing UTF-8 octet"
        skip; skip; skip
        let bytes := bytes ++ [octet.toUInt8]
        if width' - 1 = 0 then pure bytes else go n bytes (width' - 1)
      | _, _, _ => fail context start "did not find URI escaped octet"
  let bytes ← go 4 [] 0
  match String.fromUTF8? (ByteArray.mk bytes.toArray) with
  | some t => pure (acc ++ t)
  | none => pure acc

/-- Reads a tag URI, after a head already read without its leading `!`. -/
def scanTagUri (verbatim directive : Bool) (head : String) (start : Mark) : ScanM String := do
  let context := if directive then "while parsing a %TAG directive" else "while parsing a tag"
  let rec go : Nat → String → Bool → ScanM (String × Bool)
    | 0, acc, has => pure (acc, has)
    | n + 1, acc, has => do
      let c ← cur
      if isUriChar verbatim c then
        let acc ← if c = '%' then scanUriEscapes directive start acc else read acc
        go n acc true
      else pure (acc, has)
  let (s, has) ← go (← fuel) (String.ofList (head.toList.drop 1)) (head.length > 0)
  if !has then fail context start "did not find expected tag URI"
  pure s

/-- Reads a `%YAML` or `%TAG` directive. -/
def scanDirective : ScanM Token := do
  let start ← here
  skip
  let name ← readWhile isWordChar ""
  if name.isEmpty then fail "while scanning a directive" start "could not find expected directive name"
  if !isBlankEnd (← cur) then fail "while scanning a directive" start "found unexpected non-alphabetical character"
  let kind ← if name = "YAML" then do
      skipWhile isBlank
      let major ← scanVersionNumber start
      if (← cur) ≠ '.' then fail "while scanning a %YAML directive" start "did not find expected digit or '.' character"
      skip
      let minor ← scanVersionNumber start
      pure (TokenKind.versionDirective major minor)
    else if name = "TAG" then do
      skipWhile isBlank
      let handle ← scanTagHandle true start
      if !isBlank (← cur) then fail "while scanning a %TAG directive" start "did not find expected whitespace"
      skipWhile isBlank
      let pfx ← scanTagUri true true "" start
      if !isBlankEnd (← cur) then fail "while scanning a %TAG directive" start "did not find expected whitespace or line break"
      pure (TokenKind.tagDirective handle pfx)
    else fail "while scanning a directive" start "found unknown directive name"
  let stop ← here
  skipWhile isBlank
  if (← cur) = '#' then skipWhile (fun c => !isBreakEnd c)
  if !isBreakEnd (← cur) then fail "while scanning a directive" start "did not find expected comment or line break"
  if isBreak (← cur) then skipLine
  pure ⟨kind, start, stop⟩

/-- Reads an anchor or an alias name after its indicator. -/
def scanAnchor (isAlias : Bool) : ScanM Token := do
  let start ← here
  skip
  let name ← readWhile isWordChar ""
  let stop ← here
  let c ← cur
  if name.isEmpty || !(isBlankEnd c || "?:,]\x7d%@`".toList.contains c) then
    fail (if isAlias then "while scanning an alias" else "while scanning an anchor") start
      "did not find expected alphabetic or numeric character"
  pure ⟨if isAlias then .aliasRef name else .anchor name, start, stop⟩

/-- Reads a tag: `!<uri>`, `!handle!suffix`, `!suffix` or `!` alone. -/
def scanTag : ScanM Token := do
  let start ← here
  let (handle, suffix) ← if (← peekAt 1) = '<' then do
      skip; skip
      let suffix ← scanTagUri true false "" start
      if (← cur) ≠ '>' then fail "while scanning a tag" start "did not find the expected '>'"
      skip
      pure ("", suffix)
    else do
      let handle ← scanTagHandle false start
      if handle.length > 1 && handle.startsWith "!" && handle.endsWith "!" then
        let suffix ← scanTagUri false false "" start
        pure (handle, suffix)
      else
        let suffix ← scanTagUri false false handle start
        if suffix.isEmpty then pure ("", "!") else pure ("!", suffix)
  let c ← cur
  if !isBlankEnd c then
    if (← get).flowLevel = 0 || c ≠ ',' then
      fail "while scanning a tag" start "did not find expected whitespace or line break"
  pure ⟨.tag handle suffix, start, ← here⟩

/-! ## Scalars -/

/-- Blank lines and indentation before and between the lines of a block scalar; fixes the
indentation from the widest leading blank line if it was not given. -/
def blockBreaks (indent : Nat) (breaks : String) (start : Mark) : ScanM (Nat × String × Mark) := do
  let rec go : Nat → Nat → String → Mark → ScanM (Nat × String × Mark)
    | 0, maxIndent, breaks, stop => pure (maxIndent, breaks, stop)
    | n + 1, maxIndent, breaks, stop => do
      let rec spaces : Nat → ScanM Unit
        | 0 => pure ()
        | k + 1 => do
          if (indent = 0 || (← here).column < indent) && (← cur) = ' ' then skip; spaces k
      spaces (← fuel)
      let col := (← here).column
      let maxIndent := max maxIndent col
      if (indent = 0 || col < indent) && (← cur) = '\t' then
        fail "while scanning a block scalar" start "found a tab character where an indentation space is expected"
      if isBreak (← cur) then
        let breaks ← readLine breaks
        go n maxIndent breaks (← here)
      else pure (maxIndent, breaks, stop)
  let (maxIndent, breaks, stop) ← go (← fuel) 0 breaks (← here)
  let s ← get
  let indent :=
    if indent = 0 then
      let i : Int := max (max (maxIndent : Int) (s.indent + 1)) 1
      i.toNat
    else indent
  pure (indent, breaks, stop)

/-- Reads a literal (`|`) or folded (`>`) block scalar with its header. -/
def scanBlockScalar (literal : Bool) : ScanM Token := do
  let start ← here
  skip
  let readChomp : ScanM Int := do
    let c ← cur
    if c = '+' then skip; pure 1 else if c = '-' then skip; pure (-1) else pure 0
  let readIncrement : ScanM Nat := do
    let c ← cur
    if c.isDigit then
      if c = '0' then fail "while scanning a block scalar" start "found an indentation indicator equal to 0"
      skip
      pure (c.toNat - '0'.toNat)
    else pure 0
  let c ← cur
  let (chomping, increment) ← if c = '+' || c = '-' then do
      let ch ← readChomp
      let inc ← readIncrement
      pure (ch, inc)
    else do
      let inc ← readIncrement
      let ch ← readChomp
      pure (ch, inc)
  skipWhile isBlank
  if (← cur) = '#' then
    scanLineComment start
    skipWhile fun c => !isBreakEnd c
  if !isBreakEnd (← cur) then
    fail "while scanning a block scalar" start "did not find expected comment or line break"
  if isBreak (← cur) then skipLine
  let s ← get
  let indent : Nat :=
    if increment > 0 then (if s.indent ≥ 0 then (s.indent + increment).toNat else increment) else 0
  let (indent, trailing, stop) ← blockBreaks indent "" start
  let rec body : Nat → String → String → String → Bool → Mark → ScanM (String × String × String × Mark)
    | 0, acc, leading, trailing, _, stop => pure (acc, leading, trailing, stop)
    | n + 1, acc, leading, trailing, leadingBlank, stop => do
      if (← here).column = indent && !isEnd (← cur) then
        let trailingBlank := isBlank (← cur)
        let acc :=
          if !literal && !leadingBlank && !trailingBlank && leading.startsWith "\n" then
            (if trailing.isEmpty then acc.push ' ' else acc)
          else acc ++ leading
        let acc := acc ++ trailing
        let leadingBlank := isBlank (← cur)
        let acc ← readWhile (fun c => !isBreakEnd c) acc
        let leading ← readLine ""
        let (_, trailing, stop) ← blockBreaks indent "" start
        body n acc leading trailing leadingBlank stop
      else pure (acc, leading, trailing, stop)
  let (acc, leading, trailing, stop) ← body (← fuel) "" "" trailing false stop
  let acc := if chomping ≠ -1 then acc ++ leading else acc
  let acc := if chomping = 1 then acc ++ trailing else acc
  pure ⟨.scalar acc (if literal then .literal else .folded), start, stop⟩

/-- The value of a hex digit. -/
def hexDigit? (c : Char) : Option Nat :=
  if c.isDigit then some (c.toNat - '0'.toNat)
  else if 'a' ≤ c && c ≤ 'f' then some (c.toNat - 'a'.toNat + 10)
  else if 'A' ≤ c && c ≤ 'F' then some (c.toNat - 'A'.toNat + 10)
  else none

/-- Whether the text at the current place is a document marker `---` or `...` at the start of
a line, followed by a blank or the end. -/
def atDocumentMarker : ScanM Bool := do
  let m ← here
  let a ← peekAt 0
  let b ← peekAt 1
  let c ← peekAt 2
  let d ← peekAt 3
  pure (m.column = 0 && ((a = '-' && b = '-' && c = '-') || (a = '.' && b = '.' && c = '.')) && isBlankEnd d)

/-- Reads an escape sequence of a double-quoted scalar after the backslash. -/
def scanEscape (start : Mark) (acc : String) : ScanM String := do
  let e ← peekAt 1
  let simple : Option Char := match e with
    | '0' => some '\x00' | 'a' => some '\x07' | 'b' => some '\x08' | 't' => some '\t'
    | '\t' => some '\t' | 'n' => some '\n' | 'v' => some '\x0b' | 'f' => some '\x0c'
    | 'r' => some '\r' | 'e' => some '\x1b' | ' ' => some ' ' | '"' => some '"'
    | '\'' => some '\'' | '\\' => some '\\' | 'N' => some (Char.ofNat 0x85)
    | '_' => some (Char.ofNat 0xA0) | 'L' => some (Char.ofNat 0x2028)
    | 'P' => some (Char.ofNat 0x2029) | _ => none
  let width : Nat := match e with | 'x' => 2 | 'u' => 4 | 'U' => 8 | _ => 0
  match simple with
  | some ch => skip; skip; pure (acc.push ch)
  | none =>
    if width = 0 then fail "while parsing a quoted scalar" start "found unknown escape character"
    skip; skip
    let rec hexes : Nat → Nat → Nat → ScanM Nat
      | 0, _, v => pure v
      | k + 1, i, v => do
        match hexDigit? (← peekAt i) with
        | some d => hexes k (i + 1) (v * 16 + d)
        | none => fail "while parsing a quoted scalar" start "did not find expected hexdecimal number"
    let v ← hexes width 0 0
    if (0xD800 ≤ v && v ≤ 0xDFFF) || v > 0x10FFFF then
      fail "while parsing a quoted scalar" start "found invalid Unicode character escape code"
    for _ in List.range width do skip
    pure (acc.push (Char.ofNat v))

/-- Joins the blanks between two pieces of a flow scalar: a single line break folds into a
space, more breaks keep all but the first. -/
def fold (acc leading trailing whitespaces : String) (leadingBlanks : Bool) : String :=
  if leadingBlanks then
    if leading.startsWith "\n" then (if trailing.isEmpty then acc.push ' ' else acc ++ trailing)
    else acc ++ leading ++ trailing
  else acc ++ whitespaces

/-- Reads a single- or double-quoted scalar. -/
def scanQuoted (single : Bool) : ScanM Token := do
  let start ← here
  skip
  -- one round: a run of non-blank characters, then the blanks after it
  let rec chars : Nat → String → ScanM (String × Bool)
    | 0, acc => pure (acc, false)
    | n + 1, acc => do
      let c ← cur
      let d ← peekAt 1
      if isBlankEnd c then pure (acc, false)
      else if single && c = '\'' && d = '\'' then skip; skip; chars n (acc.push '\'')
      else if single && c = '\'' then pure (acc, false)
      else if !single && c = '"' then pure (acc, false)
      else if !single && c = '\\' && isBreak d then skip; skipLine; pure (acc, true)
      else if !single && c = '\\' then chars n (← scanEscape start acc)
      else chars n (← read acc)
  let rec blanks : Nat → String → String → String → Bool → ScanM (String × String × String × Bool)
    | 0, ws, lb, tb, leading => pure (ws, lb, tb, leading)
    | n + 1, ws, lb, tb, leading => do
      let c ← cur
      if isBlank c then
        if !leading then blanks n (← read ws) lb tb leading
        else skip; blanks n ws lb tb leading
      else if isBreak c then
        if !leading then blanks n "" (← readLine lb) tb true
        else blanks n ws lb (← readLine tb) leading
      else pure (ws, lb, tb, leading)
  let rec rounds : Nat → String → ScanM String
    | 0, acc => pure acc
    | n + 1, acc => do
      if ← atDocumentMarker then
        fail "while scanning a quoted scalar" start "found unexpected document indicator"
      if isEnd (← cur) then
        fail "while scanning a quoted scalar" start "found unexpected end of stream"
      let (acc, leadingBlanks) ← chars (← fuel) acc
      let c ← cur
      if (single && c = '\'') || (!single && c = '"') then pure acc
      else
        let (ws, lb, tb, leadingBlanks) ← blanks (← fuel) "" "" "" leadingBlanks
        rounds n (fold acc lb tb ws leadingBlanks)
  let acc ← rounds (← fuel) ""
  skip
  pure ⟨.scalar acc (if single then .singleQuoted else .doubleQuoted), start, ← here⟩

/-- Reads a plain scalar, which may run over several lines of deeper indentation. -/
def scanPlain : ScanM Token := do
  let start ← here
  let s ← get
  let indent : Int := s.indent + 1
  -- the characters of one line piece, joining the blanks before it
  let rec chars : Nat → String → String → String → String → Bool → Mark →
      ScanM (String × String × String × String × Bool × Mark)
    | 0, acc, ws, lb, tb, lbl, stop => pure (acc, ws, lb, tb, lbl, stop)
    | n + 1, acc, ws, lb, tb, lbl, stop => do
      let c ← cur
      let d ← peekAt 1
      let fl := (← get).flowLevel
      if isBlankEnd c then pure (acc, ws, lb, tb, lbl, stop)
      else if (c = ':' && isBlankEnd d) || (fl > 0 && ",?[]\x7b\x7d".toList.contains c) then
        pure (acc, ws, lb, tb, lbl, stop)
      else
        let (acc, ws, lb, tb, lbl) :=
          if lbl || !ws.isEmpty then
            if lbl then
              let acc := if lb.startsWith "\n" then (if tb.isEmpty then acc.push ' ' else acc ++ tb)
                else acc ++ lb ++ tb
              (acc, ws, "", "", false)
            else (acc ++ ws, "", lb, tb, lbl)
          else (acc, ws, lb, tb, lbl)
        let acc ← read acc
        chars n acc ws lb tb lbl (← here)
  let rec blanks : Nat → String → String → String → Bool → ScanM (String × String × String × Bool)
    | 0, ws, lb, tb, lbl => pure (ws, lb, tb, lbl)
    | n + 1, ws, lb, tb, lbl => do
      let c ← cur
      if isBlank c then
        if lbl && ((← here).column : Int) < indent && c = '\t' then
          fail "while scanning a plain scalar" start "found a tab character that violates indentation"
        if !lbl then blanks n (← read ws) lb tb lbl
        else skip; blanks n ws lb tb lbl
      else if isBreak c then
        if !lbl then blanks n "" (← readLine lb) tb true
        else blanks n ws lb (← readLine tb) lbl
      else pure (ws, lb, tb, lbl)
  let rec rounds : Nat → String → String → String → String → Bool → Mark → ScanM (String × Bool × Mark)
    | 0, acc, _, _, _, lbl, stop => pure (acc, lbl, stop)
    | n + 1, acc, ws, lb, tb, lbl, stop => do
      if ← atDocumentMarker then return (acc, lbl, stop)
      if (← cur) = '#' then return (acc, lbl, stop)
      let (acc, ws, lb, tb, lbl, stop) ← chars (← fuel) acc ws lb tb lbl stop
      let c ← cur
      if !(isBlank c || isBreak c) then return (acc, lbl, stop)
      let (ws, lb, tb, lbl) ← blanks (← fuel) ws lb tb lbl
      if (← get).flowLevel = 0 && ((← here).column : Int) < indent then return (acc, lbl, stop)
      rounds n acc ws lb tb lbl stop
  let (acc, lbl, stop) ← rounds (← fuel) "" "" "" "" false start
  if lbl then modify fun s => { s with simpleKeyAllowed := true }
  pure ⟨.scalar acc .plain, start, stop⟩

/-! ## Fetching tokens -/

/-- Adds the stream start. -/
def fetchStreamStart : ScanM Unit := do
  let m ← here
  modify fun s => { s with indent := -1, simpleKeyAllowed := true, streamStarted := true,
                           simpleKeys := [{ mark := m }] }
  emptyToken .streamStart

/-- Adds the stream end, closing every open block. -/
def fetchStreamEnd : ScanM Unit := do
  modify fun s => if s.mark.column ≠ 0 then { s with mark := { s.mark with column := 0, line := s.mark.line + 1 } } else s
  unrollIndent (-1) (← here)
  removeSimpleKey
  modify fun s => { s with simpleKeyAllowed := false, streamEnded := true }
  emptyToken .streamEnd

/-- Adds a token made of an indicator of `width` characters. -/
def indicator (kind : TokenKind) (width : Nat) : ScanM Unit := do
  let start ← here
  for _ in List.range width do skip
  insertToken none ⟨kind, start, ← here⟩

/-- Marks the innermost possible key as used. -/
def dropTopKey : List SimpleKey → List SimpleKey
  | j :: rest => { j with possible := false } :: rest
  | [] => []

/-- Adds a colon: a key token where the possible key started, or a value after a complex key. -/
def fetchValue : ScanM Unit := do
  let s ← get
  let k := s.simpleKeys.headD {}
  if ← keyStillValid k then
    insertToken (some k.tokenNumber) ⟨.key, k.mark, k.mark⟩
    rollIndent k.mark.column (some k.tokenNumber) .blockMappingStart k.mark
    modify fun s => { s with simpleKeys := dropTopKey s.simpleKeys }
    modify fun s => { s with simpleKeyAllowed := false }
  else
    let s ← get
    if s.flowLevel = 0 then
      if !s.simpleKeyAllowed then fail "" s.mark "mapping values are not allowed in this context"
      rollIndent s.mark.column none .blockMappingStart s.mark
    modify fun s => { s with simpleKeyAllowed := s.flowLevel = 0 }
  indicator .value 1

/-- Reads a token that starts at the current place, past any document markers. -/
def fetchToken : ScanM Unit := do
  let c ← cur
  let d ← peekAt 1
  let s ← get
  if c = '[' || c = '{' then
    saveSimpleKey; increaseFlowLevel
    modify fun s => { s with simpleKeyAllowed := true }
    indicator (if c = '[' then .flowSequenceStart else .flowMappingStart) 1
    return
  if c = ']' || c = '}' then
    removeSimpleKey; decreaseFlowLevel
    modify fun s => { s with simpleKeyAllowed := false }
    indicator (if c = ']' then .flowSequenceEnd else .flowMappingEnd) 1
    return
  if c = ',' then
    removeSimpleKey
    modify fun s => { s with simpleKeyAllowed := true }
    indicator .flowEntry 1
    return
  if c = '-' && isBlankEnd d then
    if s.flowLevel = 0 then
      if !s.simpleKeyAllowed then fail "" s.mark "block sequence entries are not allowed in this context"
      rollIndent s.mark.column none .blockSequenceStart s.mark
    removeSimpleKey
    modify fun s => { s with simpleKeyAllowed := true }
    indicator .blockEntry 1
    return
  if c = '?' && (s.flowLevel > 0 || isBlankEnd d) then
    if s.flowLevel = 0 then
      if !s.simpleKeyAllowed then fail "" s.mark "mapping keys are not allowed in this context"
      rollIndent s.mark.column none .blockMappingStart s.mark
    removeSimpleKey
    modify fun s => { s with simpleKeyAllowed := s.flowLevel = 0 }
    indicator .key 1
    return
  if c = ':' && (s.flowLevel > 0 || isBlankEnd d) then fetchValue; return
  if c = '*' || c = '&' then
    saveSimpleKey
    modify fun s => { s with simpleKeyAllowed := false }
    insertToken none (← scanAnchor (c = '*'))
    return
  if c = '!' then
    saveSimpleKey
    modify fun s => { s with simpleKeyAllowed := false }
    insertToken none (← scanTag)
    return
  if (c = '|' || c = '>') && s.flowLevel = 0 then
    removeSimpleKey
    modify fun s => { s with simpleKeyAllowed := true }
    insertToken none (← scanBlockScalar (c = '|'))
    return
  if c = '\'' || c = '"' then
    saveSimpleKey
    modify fun s => { s with simpleKeyAllowed := false }
    insertToken none (← scanQuoted (c = '\''))
    return
  let starts := !(isBlankEnd c || "-?:,[]\x7b\x7d#&*!|>'\"%@`".toList.contains c) ||
    (c = '-' && !isBlank d) || (s.flowLevel = 0 && (c = '?' || c = ':') && !isBlankEnd d)
  if starts then
    saveSimpleKey
    modify fun s => { s with simpleKeyAllowed := false }
    insertToken none (← scanPlain)
    return
  fail "while scanning for the next token" s.mark "found character that cannot start any token"

/-- Reads the next token into the queue, with a comment that follows it on its line; a colon
or a flow comma passes that comment to the token before it. -/
def fetchNext : ScanM Unit := do
  if !(← get).streamStarted then fetchStreamStart; return
  let scanMark ← here
  scanToNextToken
  unrollIndent (← here).column scanMark
  let c ← cur
  let s ← get
  if isEnd c then fetchStreamEnd; return
  if s.mark.column = 0 && c = '%' then
    unrollIndent (-1) (← here); removeSimpleKey
    modify fun s => { s with simpleKeyAllowed := false }
    let t ← scanDirective
    insertToken none t
    return
  if s.mark.column = 0 && (← atDocumentMarker) then
    unrollIndent (-1) (← here); removeSimpleKey
    modify fun s => { s with simpleKeyAllowed := false }
    indicator (if c = '-' then .documentStart else .documentEnd) 3
    return
  let commentMark := match recentTokens s with
    | (some t, _) => if (s.flowLevel = 0 && c = ':') || (s.flowLevel > 0 && c = ',') then t.start else s.mark
    | _ => s.mark
  fetchToken
  match recentTokens (← get) with
  | (some t, _) => if t.kind = .blockEntry then return
  | _ => pure ()
  scanLineComment commentMark

/-- Reads tokens until the first queued one is settled: at least three are queued and the
first cannot become a key any more. -/
def fetchMore : ScanM Unit := do
  let rec go : Nat → ScanM Unit
    | 0 => pure ()
    | n + 1 => do
      let s ← get
      if s.streamEnded then return
      if s.queue.length > 2 then
        match s.simpleKeys.find? (fun k => k.possible && k.tokenNumber == s.handed) with
        | none => return
        | some k => if !(← keyStillValid k) then return
      fetchNext
      go n
  go ((← get).input.size * 4 + 16)

/-- Joins one text to another on a new line. -/
def joinLines (a b : String) : String := if a = "" then b else a ++ "\n" ++ b

/-- Joins the comments whose token mark a token has reached to the pending comments; a head
comment waits for a token that is not the end of a block. -/
def unfoldComments (t : Token) : ScanM Unit := do
  let rec go : Nat → ScanM Unit
    | 0 => pure ()
    | n + 1 => do
      let s ← get
      if h : s.commentsHead < s.comments.size then
        let c := s.comments[s.commentsHead]
        if t.start.index ≥ c.tokenMark.index then
          if c.head ≠ "" && t.kind = .blockEnd then return
          let headComment := if c.head = "" then s.headComment else joinLines s.headComment c.head
          let footComment := if c.foot = "" then s.footComment else joinLines s.footComment c.foot
          let lineComment := if c.line = "" then s.lineComment else joinLines s.lineComment c.line
          let comments := s.comments.set s.commentsHead {}
          set { s with headComment, footComment, lineComment, comments, commentsHead := s.commentsHead + 1 }
          go n
  go ((← get).comments.size + 1)

/-- The next token, without taking it; the comments it reached are joined. -/
def peek : ScanM Token := do
  fetchMore
  match (← get).queue with
  | t :: _ => unfoldComments t; pure t
  | [] => pure ⟨.streamEnd, (← here), (← here)⟩

/-- Takes the next token. -/
def take : ScanM Unit :=
  modify fun s => match s.queue with
    | t :: rest => { s with queue := rest, handed := s.handed + 1, taken := (t :: s.taken).take 2 }
    | [] => s

/-- Takes the pending comments. -/
def takeComments : ScanM (String × String × String) := do
  let s ← get
  set { s with headComment := "", lineComment := "", footComment := "" }
  pure (s.headComment, s.lineComment, s.footComment)

/-- Whether a character may appear in YAML text: tab, line breaks, printable ASCII, next line,
and the rest of Unicode but the surrogates, U+FFFE and U+FFFF. -/
def allowedChar (c : Char) : Bool :=
  let v := c.toNat
  v = 0x09 || v = 0x0A || v = 0x0D || (0x20 ≤ v && v ≤ 0x7E) || v = 0x85 ||
    (0xA0 ≤ v && v ≤ 0xD7FF) || (0xE000 ≤ v && v ≤ 0xFFFD) || (0x10000 ≤ v && v ≤ 0x10FFFF)

/-- A scanner over a text, or the reader's error for a character YAML does not allow. A byte
order mark that opens the text only names its encoding and is dropped. -/
def start (text : String) : Except SyntaxError Scanner :=
  let cs := match text.toList with
    | c :: rest => if c.toNat = 0xFEFF then rest else c :: rest
    | [] => []
  if cs.all allowedChar then .ok { input := cs.toArray }
  else .error { stage := .reader, problem := "control characters are not allowed" }

end Scanner
end PassPlan.Yaml
