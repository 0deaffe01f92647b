import PassPlan.Yaml.Render
import PassPlan.Workspace.Tree
/-!
Setting one value in a settings file while keeping the rest of it as written. The file is read
as a node tree, the key is found by its dotted parts (sections that are missing are made), the
value is put in as a string with the comments of the value it replaces, and the tree is written
back whole. A missing or empty file starts as an empty mapping.
-/
namespace PassPlan.Config

open PassPlan.Yaml

/-- The value after the first key in a mapping's content that has a given text, with its
position. -/
def valueAt (key : String) : Nat → List Yaml.Node → Option (Nat × Yaml.Node)
  | i, k :: v :: rest => if k.value = key then some (i + 1, v) else valueAt key (i + 2) rest
  | _, _ => none

/-- Puts a value at a key, given by its parts, in a mapping: an existing value is replaced and
keeps its comments, a missing key is added at the end, and a missing section is added empty. -/
def setKey (value : Yaml.Node) : List String → Yaml.Node → Except String Yaml.Node
  | [], m => .ok m
  | key :: rest, m =>
    if key = "" then .error "empty key segment"
    else
      match valueAt key 0 m.content with
      | some (i, existing) =>
        if rest = [] then
          let v := { value with headComment := existing.headComment, lineComment := existing.lineComment }
          .ok { m with content := m.content.set i v }
        else if existing.kind ≠ .mapping then .error (key ++ " is not a section")
        else do
          let inner ← setKey value rest existing
          pure { m with content := m.content.set i inner }
      | none =>
        let keyNode : Yaml.Node := { kind := .scalar, value := key }
        if rest = [] then .ok { m with content := m.content ++ [keyNode, value] }
        else do
          let inner ← setKey value rest { kind := .mapping }
          pure { m with content := m.content ++ [keyNode, inner] }

/-- The dotted parts of a key; an empty part stays, as between two dots. -/
def keySegments (key : String) : List String := (key.toList.splitOn '.').map String.ofList

/-- The document a settings text holds; an empty text, or one with no document, holds an empty
mapping. -/
def settingsDocument (data : String) : Except String Yaml.Node := do
  let parsed ← if data = "" then pure none
    else (firstDocument plainTag data).mapError fun e => "parsing config: " ++ e.message
  let doc := parsed.getD { kind := .document }
  pure (if doc.content.isEmpty then { doc with content := [{ kind := .mapping }] } else doc)

/-- The settings text after setting a dotted key to a string value. -/
def setText (data key value : String) : Except String String := do
  let doc ← settingsDocument data
  let top ← match doc.content with
    | top :: _ => if top.kind = .mapping then pure top else throw "parsing config: top level is not a mapping"
    | [] => throw "parsing config: top level is not a mapping"
  let valueNode : Yaml.Node := { kind := .scalar, tag := "!!str", value }
  let top ← (setKey valueNode (keySegments key) top).mapError fun e => "setting " ++ key ++ ": " ++ e
  pure { doc with content := doc.content.set 0 top }.text

/-- Replaces a file with new text, as a rename from a file beside it would: a link at the path
is replaced, not followed. -/
def replaceFile (t : Workspace.Tree) (path text : String) : Except String Workspace.Tree := do
  let t ← (t.mkdirAll (Workspace.Path.dir path)).mapError fun e => "creating config directory: " ++ e.text
  match t.resolve false path with
  | .ok real => pure (t.put real (.file (.text text)))
  | .error e => throw ("renaming temp file: " ++ e.text)

/-- The text of the settings file at a path; a missing file reads as empty. -/
def readSettings (t : Workspace.Tree) (path : String) : Except String String :=
  match t.readText path with
  | .ok s => pure s
  | .error e => if e.errno = .noent then pure "" else throw ("reading config: " ++ e.text)

/-- Sets a dotted key to a string value in the settings file at a path. -/
def saveValue (t : Workspace.Tree) (path key value : String) : Except String Workspace.Tree := do
  let data ← readSettings t path
  replaceFile t path (← setText data key value)

end PassPlan.Config
