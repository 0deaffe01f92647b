import PassPlan.Yaml.Node
import PassPlan.Yaml.Resolve
import PassPlan.Text.Quoted
import PassPlan.Text.Bytes
/-!
Decoding a node tree into a value of a given shape: a string, a boolean, any value, a list, a
map with string keys, or a record with named fields. A node that does not fit its shape is a
type error, recorded with its line; decoding goes on, and the node is left out (a list drops
it, a field keeps its zero). A duplicate key makes its whole mapping a type error. Some faults
stop decoding at once: a scalar whose text does not fit its explicit tag, bad base 64, an
alias to a node that contains it, and a merge of something that is not a mapping.
-/
namespace PassPlan.Yaml

/-- The shapes a node can be decoded into. A record lists its field keys and their shapes,
and carries the type name its errors show. -/
inductive Shape where
  | text
  | flag
  | any
  | list (elem : Shape)
  | dict
  | record (type : String) (fields : List (String × Shape))

/-- The type name of a shape as errors spell it. -/
def Shape.typeName : Shape → String
  | .text => "string"
  | .flag => "bool"
  | .any => "interface \x7b\x7d"
  | .list s => "[]" ++ s.typeName
  | .dict => "map[string]interface \x7b\x7d"
  | .record t _ => t

/-- The value a shape holds before anything is decoded into it. -/
def Shape.zero : Shape → Value
  | .text => .str ""
  | .flag => .bool false
  | .record _ _ => .dict []
  | _ => .null

/-- Decoding steps: the type errors so far, and faults that stop decoding. -/
abbrev DecodeM := StateT (Array String) (Except String)

/-- Stops decoding with the fault of a failed step. -/
def orFault (r : Except String α) : DecodeM α :=
  match r with
  | .ok a => pure a
  | .error e => throw e

/-- A scalar as a type error shows it: in full up to ten bytes, else its first seven and an
ellipsis. -/
def clip (s : String) : String :=
  if s.utf8ByteSize > 10 then Text.takeBytes s 7 ++ "..." else s

/-- Records that a node does not fit a shape. -/
def mismatch (n : Node) (tag : String) (s : Shape) : DecodeM Unit :=
  let tag := if n.tag ≠ "" then n.tag else tag
  let shown := if tag ≠ "!!seq" && tag ≠ "!!map" then " `" ++ clip n.value ++ "`" else ""
  modify (·.push ("line " ++ toString n.line ++ ": cannot unmarshal " ++ shortTag tag ++ shown ++
    " into " ++ s.typeName))

/-- Whether a scalar is a string by its tag or its quoting. -/
def Node.isString (n : Node) : Bool := n.kind = .scalar && n.tag = "!!str"

/-- The tag a node stands for: strings by their quoting, an alias by its target. -/
def Node.shortTag (n : Node) : String :=
  if n.isString then "!!str"
  else match n.kind with
    | .aliasRef => match n.target with
      | some t => if t.isString then "!!str" else t.tag
      | none => ""
    | _ => n.tag

/-- Whether a key is the merge key. -/
def Node.isMerge (n : Node) : Bool :=
  n.kind = .scalar && n.value = "<<" && (n.tag = "" || n.tag = "!" || n.tag = "!!merge")

/-- The keys and values of a mapping's content. -/
def pairs : List Node → List (Node × Node)
  | k :: v :: rest => (k, v) :: pairs rest
  | _ => []

/-- The tag and value of a scalar; base 64 is decoded for `!!binary`. -/
def scalarMeaning (n : Node) : Except String (String × Value) :=
  if n.isString then .ok ("!!str", .str n.value)
  else match resolve n.tag n.value with
    | .error m => .error ("yaml: " ++ m)
    | .ok ("!!binary", _) =>
      match base64Decode n.value with
      | some bs => .ok ("!!binary", .str (bytesText bs))
      | none => .error "yaml: !!binary value contains invalid base64 data"
    | .ok r => .ok r

/-- The old spellings of booleans a boolean field accepts. -/
def oldBool? (s : String) : Option Bool :=
  if ["y", "Y", "yes", "Yes", "YES", "on", "On", "ON"].contains s then some true
  else if ["n", "N", "no", "No", "NO", "off", "Off", "OFF"].contains s then some false
  else none

/-- Decodes a scalar into a shape. -/
def decodeScalar (s : Shape) (n : Node) : DecodeM (Option Value) := do
  let (tag, v) ← orFault (scalarMeaning n)
  match v, s with
  | .null, .any | .null, .list _ | .null, .dict => pure (some .null)
  | .null, _ => pure none
  | _, .any => pure (some v)
  | _, .text => pure (some (.str (if tag = "!!binary" then (match v with | .str b => b | _ => n.value) else n.value)))
  | .bool b, .flag => pure (some (.bool b))
  | .str t, .flag =>
    match oldBool? t with
    | some b => pure (some (.bool b))
    | none => mismatch n tag s; pure none
  | _, _ => mismatch n tag s; pure none

/-- Records every later key equal in kind and text to an earlier one; reports whether there
was any. -/
def duplicateKeys (n : Node) : DecodeM Bool := do
  let keys := (pairs n.content).map (·.1)
  let before := (← get).size
  let rec scan : List Node → DecodeM Unit
    | [] => pure ()
    | k :: rest => do
      for l in rest do
        if k.kind = l.kind && k.value = l.value then
          modify (·.push ("line " ++ toString l.line ++ ": mapping key " ++ Text.quote l.value ++
            " already defined at line " ++ toString k.line))
      scan rest
  scan keys
  pure ((← get).size > before)

/-- The mappings a merge value stands for. -/
def mergeSources (v : Node) : Except String (List Node) :=
  let want := "yaml: map merge requires map or sequence of maps as the value"
  let asMap (m : Node) : Except String Node :=
    match m.kind with
    | .mapping => .ok m
    | .aliasRef => match m.target with
      | some t => if t.kind = .mapping then .ok t else .error want
      | none => .ok m
    | _ => .error want
  match v.kind with
  | .sequence => v.content.mapM asMap
  | _ => (asMap v).map ([·])

/-- Inserts a key into a map with keys of any kind, replacing an equal key. -/
def tableSet (t : List (Value × Value)) (k v : Value) : List (Value × Value) :=
  if t.any (fun (k', _) => k'.deepEq k) then t.map fun (k', v') => if k'.deepEq k then (k', v) else (k', v')
  else t ++ [(k, v)]

/-- The entries of a map whose keys are strings, as attributes. -/
def stringEntries (t : List (Value × Value)) : Attrs :=
  Attrs.ofList (t.filterMap fun (k, v) =>
    match k with
    | .str k => some (k, v)
    | _ => none)

/-- Whether a key is already present in a map. -/
def tableHas (t : List (Value × Value)) (k : Value) : Bool := t.any (·.1.deepEq k)

mutual
/-- Decodes a node into a shape: none when the node does not fit. -/
def decode : Nat → Shape → Node → DecodeM (Option Value)
  | 0, _, _ => pure none
  | fuel + 1, s, n =>
    match n.kind with
    | .document => match n.content with
      | [c] => decode fuel s c
      | _ => pure none
    | .aliasRef => match n.target with
      | some t => decode fuel s t
      | none => throw ("yaml: anchor '" ++ n.value ++ "' value contains itself")
    | .scalar => decodeScalar s n
    | .sequence =>
      let items (e : Shape) : DecodeM (Option Value) := do
        let mut out := #[]
        for c in n.content do
          if let some v ← decode fuel e c then out := out.push v
        pure (some (.list out.toList))
      match s with
      | .list e => items e
      | .any => items .any
      | _ => do mismatch n "!!seq" s; pure none
    | .mapping => do
      if ← duplicateKeys n then return none
      match s with
      | .record _ fields => (some ∘ Value.dict) <$> decodeRecord fuel s fields n [] []
      | .dict => (some ∘ Value.dict ∘ stringEntries) <$> decodeMap fuel .text n [] []
      | .any =>
        let stringKeys := (pairs n.content).all fun (k, _) =>
          k.shortTag = "!!str" || k.shortTag = "!!merge"
        let t ← decodeMap fuel .any n [] []
        pure (some (if stringKeys then .dict (stringEntries t) else .table t))
      | _ => do mismatch n "!!map" s; pure none

/-- Decodes a mapping's entries into a map, keys by `key`, values as any value; keys in
`skip` are left alone and the keys set are added to it. Merged mappings come last and do
not replace keys already present. -/
def decodeMap : Nat → Shape → Node → List (Value × Value) → List Value →
    DecodeM (List (Value × Value))
  | 0, _, _, acc, _ => pure acc
  | fuel + 1, key, n, acc, skip => do
    let mut out := acc
    let mut merges := []
    for (k, v) in pairs n.content do
      if k.isMerge then merges := merges ++ [v]; continue
      let some kv ← decode fuel key k | continue
      if skip.any (·.deepEq kv) then continue
      match kv with
      | .list _ | .dict _ | .table _ => throw ("yaml: invalid map key: " ++ kv.typeName)
      | _ => pure ()
      match ← decode fuel .any v with
      | some x => out := tableSet out kv x
      | none => if v.shortTag = "!!null" && !tableHas out kv then out := tableSet out kv .null
    for m in merges do
      for src in ← orFault (mergeSources m) do
        if src.kind = .aliasRef then
          let _ ← decode fuel .any src
          continue
        if ← duplicateKeys src then continue
        out ← decodeMap fuel key src out (out.map (·.1))
    pure out

/-- Decodes a mapping's entries into a record's fields, unknown keys being type errors.
Fields already set by the mapping itself win over merged ones. -/
def decodeRecord : Nat → Shape → List (String × Shape) → Node → Attrs → List String →
    DecodeM Attrs
  | 0, _, _, _, acc, _ => pure acc
  | fuel + 1, s, fields, n, acc, skip => do
    let mut out := acc
    let own := (pairs n.content).filterMap fun (k, _) => if k.kind = .scalar then some k.value else none
    for (k, v) in pairs n.content do
      if k.isMerge then
        for src in ← orFault (mergeSources v) do
          if src.kind ≠ .mapping then continue
          if ← duplicateKeys src then continue
          out ← decodeRecord fuel s fields src out (skip ++ own ++ out.map (·.1))
        continue
      let some (.str name) ← decode fuel .text k | continue
      if skip.contains name then continue
      match fields.lookup name with
      | some fs =>
        if let some x ← decode fuel fs v then out := out.set name x
      | none =>
        modify (·.push ("line " ++ toString k.line ++ ": field " ++ name ++ " not found in type " ++
          s.typeName))
    pure out
end

/-- The outcome of decoding a document: its value, or the type errors, or a fault. -/
inductive Decoded where
  | value (v : Value)
  | typeErrors (lines : List String)
  | fault (message : String)

/-- The message of type errors. -/
def typeErrorMessage (lines : List String) : String :=
  "yaml: unmarshal errors:\n  " ++ "\n  ".intercalate lines

/-- Decodes a node tree into a shape; a value that did not fit is the shape's zero. -/
def decodeTree (s : Shape) (n : Node) (fuel : Nat) : Decoded :=
  match (decode fuel s n).run #[] with
  | .error m => .fault m
  | .ok (v, errs) =>
    if errs.isEmpty then .value (v.getD s.zero) else .typeErrors errs.toList

/-- Decodes the first document of a text into a shape; a text without a document is the
shape's zero, and a text that is not YAML is a fault. -/
def decodeText (s : Shape) (text : String) : Decoded :=
  match firstDocument plainTag text with
  | .error e => .fault e.message
  | .ok none => .value s.zero
  | .ok (some n) => decodeTree s n (2 * text.length + 16)

end PassPlan.Yaml
