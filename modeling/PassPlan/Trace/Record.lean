import PassPlan.Trace.Span
import PassPlan.Json.Reader
import PassPlan.Json.Writer
import PassPlan.Value.Rfc3339
import PassPlan.Decimal.Format
/-!
Trace files: one JSON record per ended span and line. A record holds the span's trace, its own
and its parent's identifiers in hexadecimal, its name, times, status, attributes and events.
Reading a file skips blank lines and stops at the first line that is not a record, naming the
line. A field of the wrong kind is reported with the record type and field it was meant for;
times must be RFC 3339 texts.
-/
namespace PassPlan.Trace

/-- A number as lower-case hexadecimal with a fixed number of digits. -/
def hexText (width n : Nat) : String :=
  let d (k : Nat) : Char := if k < 10 then Char.ofNat (48 + k) else Char.ofNat (87 + k)
  let rec digits : Nat → Nat → List Char → List Char
    | 0, _, acc => acc
    | w + 1, m, acc => digits w (m / 16) (d (m % 16) :: acc)
  String.ofList (digits width n [])

/-- The JSON form of an attribute value. -/
def AttrValue.json : AttrValue → Json
  | .int i => .int i
  | .float f => .num (Decimal.gText f)
  | .bool b => .bool b
  | .str s => .str s
  | .strs xs => .arr (xs.map .str)

/-- Attributes as a JSON object, keys in order. -/
def attrsJson (attrs : List Attr) : Json :=
  .obj ((attrs.map fun a => (a.key, a.value.json)).mergeSort fun a b => decide (a.1 ≤ b.1))

/-- The record line of an ended span, all times at one instant. -/
def Span.recordLine (s : Span) (at_ : Instant) : String :=
  let time := Json.str at_.rfc3339
  let opt (k : String) (present : Bool) (v : Json) : List (String × Json) := if present then [(k, v)] else []
  let event (e : SpanEvent) : Json :=
    .obj ([("name", .str e.name), ("timestamp", time)] ++ opt "attributes" (!e.attrs.isEmpty) (attrsJson e.attrs))
  let fields : List (String × Json) :=
    [("trace_id", .str (hexText 32 s.trace)), ("span_id", .str (hexText 16 s.id))] ++
    (match s.parent with
      | some p => [("parent_span_id", .str (hexText 16 p))]
      | none => []) ++
    [("name", .str s.name), ("start_time", time), ("end_time", time), ("duration_ms", .num "0"),
      ("status", .str s.status.text)] ++
    opt "status_message" (s.statusMessage ≠ "") (.str s.statusMessage) ++
    opt "attributes" (!s.attrs.isEmpty) (attrsJson s.attrs) ++
    opt "events" (!s.events.isEmpty) (.arr (s.events.map event))
  Json.compact (.obj fields) ++ "\n"

/-- A span event as read from a file. -/
structure EventRecord where
  name : String := ""
  attributes : List (String × Json) := []
deriving Repr, Inhabited

/-- A span as read from a file. -/
structure SpanRecord where
  traceId : String := ""
  spanId : String := ""
  parentSpanId : String := ""
  name : String := ""
  status : String := ""
  statusMessage : String := ""
  attributes : List (String × Json) := []
  events : List EventRecord := []
deriving Repr, Inhabited

/-- The kind of a JSON value as decoding failures name it. -/
def kindName : Json → String
  | .null => "null"
  | .bool _ => "bool"
  | .num _ => "number"
  | .str _ => "string"
  | .arr _ => "array"
  | .obj _ => "object"

/-- The failure of a value that does not fit a field. -/
def typeMismatch (v : Json) (record field type : String) : String :=
  "json: cannot unmarshal " ++ kindName v ++ " into Go struct field " ++ record ++ "." ++ field ++ " of type " ++ type

/-- The members of an object whose key names a field, matched without regard to case, the
last one winning. -/
def member? (kvs : List (String × Json)) (field : String) : Option Json :=
  match kvs.reverse.find? (·.1 = field) with
  | some (_, v) => some v
  | none => (kvs.reverse.find? fun (k, _) => k.toLower = field.toLower).map (·.2)

/-- Reads a text field; null leaves it empty. -/
def textField (kvs : List (String × Json)) (record path field : String) : Except String String :=
  match member? kvs field with
  | none | some .null => .ok ""
  | some (.str s) => .ok s
  | some v => .error (typeMismatch v record (path ++ field) "string")

/-- Checks a time field: null or an RFC 3339 text. -/
def timeField (kvs : List (String × Json)) (field : String) : Except String Unit :=
  match member? kvs field with
  | none | some .null => .ok ()
  | some (.str s) => (Instant.ofRfc3339 s).map (fun _ => ()) |>.mapError (·.text)
  | some _ => .error "Time.UnmarshalJSON: input is not a JSON string"

/-- Reads an attribute map; null leaves it empty. -/
def mapField (kvs : List (String × Json)) (record path field : String) :
    Except String (List (String × Json)) :=
  match member? kvs field with
  | none | some .null => .ok []
  | some (.obj m) => .ok m
  | some v => .error (typeMismatch v record (path ++ field) "map[string]interface {}")

/-- Reads one event record. -/
def EventRecord.read (v : Json) : Except String EventRecord :=
  match v with
  | .null => .ok {}
  | .obj kvs => do
    let name ← textField kvs "EventRecord" "events." "name"
    timeField kvs "timestamp"
    let attributes ← mapField kvs "EventRecord" "events." "attributes"
    pure { name, attributes }
  | v => .error (typeMismatch v "SpanRecord" "events" "tracing.EventRecord")

/-- Reads one span record from a JSON value. -/
def SpanRecord.read (v : Json) : Except String SpanRecord :=
  match v with
  | .null => .ok {}
  | .obj kvs => do
    let text (f : String) := textField kvs "SpanRecord" "" f
    let traceId ← text "trace_id"
    let spanId ← text "span_id"
    let parentSpanId ← text "parent_span_id"
    let name ← text "name"
    timeField kvs "start_time"
    timeField kvs "end_time"
    match member? kvs "duration_ms" with
    | none | some .null | some (.num _) => pure ()
    | some d => throw (typeMismatch d "SpanRecord" "duration_ms" "float64")
    let status ← text "status"
    let statusMessage ← text "status_message"
    let attributes ← mapField kvs "SpanRecord" "" "attributes"
    let events ← match member? kvs "events" with
      | none | some .null => pure []
      | some (.arr es) => es.mapM EventRecord.read
      | some e => throw (typeMismatch e "SpanRecord" "events" "[]tracing.EventRecord")
    pure { traceId, spanId, parentSpanId, name, status, statusMessage, attributes, events }
  | v => .error ("json: cannot unmarshal " ++ kindName v ++ " into Go value of type tracing.SpanRecord")

/-- The lines of a text, each without its line break or a carriage return before it. -/
def textLines (text : String) : List String :=
  let ls := text.splitOn "\n"
  let ls := if ls.getLast? = some "" then ls.dropLast else ls
  ls.map fun l => if l.endsWith "\r" then String.ofList l.toList.dropLast else l

/-- Reads the records of a trace file. -/
def readRecords (text : String) : Except String (List SpanRecord) :=
  (textLines text).zipIdx.filterMapM fun (line, i) =>
    if line = "" then pure none
    else
      match Json.parse line >>= SpanRecord.read with
      | .ok r => pure (some r)
      | .error e => throw ("line " ++ toString (i + 1) ++ ": " ++ e)

/-- What a summary tells of one record: its name, its parent's name (`?` when that is not in
the file), its status, attributes and events, and whether it has a trace. -/
structure Summary where
  name : String
  parent : Option String
  status : String
  statusMessage : String
  attributes : List (String × Json)
  events : List EventRecord
  hasTrace : Bool
deriving Repr, Inhabited

/-- The summaries of the records of a file, in order. -/
def summarize (records : List SpanRecord) : List Summary :=
  records.map fun r =>
    let parent :=
      if r.parentSpanId = "" then none
      else some (((records.reverse.find? (·.spanId = r.parentSpanId)).map (·.name)).getD "?")
    { name := r.name, parent, status := r.status, statusMessage := r.statusMessage,
      attributes := r.attributes, events := r.events, hasTrace := r.traceId ≠ "" }

end PassPlan.Trace
