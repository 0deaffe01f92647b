/-!
Spans: named stretches of work with attributes and events, ended with a status. A span started
under another shares its trace; a span started alone begins a new one. A tracer numbers the
spans it starts and keeps the ended ones in the order they ended; a tracer that is off keeps
nothing. Ending a span with a failure records the failure as an `exception` event and marks
the span as failed with the failure's message.
-/
namespace PassPlan.Trace

/-- The value of an attribute. -/
inductive AttrValue where
  | int (i : Int)
  | float (f : Float)
  | bool (b : Bool)
  | str (s : String)
  | strs (xs : List String)
deriving Repr, Inhabited

/-- An attribute: a key and its value. -/
structure Attr where
  key : String
  value : AttrValue
deriving Repr, Inhabited

/-- How a span ended: without a status, well, or with an error. -/
inductive Status where
  | unset
  | ok
  | error
deriving DecidableEq, Repr, Inhabited

/-- The name of a status. -/
def Status.text : Status → String
  | .unset => "UNSET"
  | .ok => "OK"
  | .error => "ERROR"

/-- Something that happened during a span. -/
structure SpanEvent where
  name : String
  attrs : List Attr := []
deriving Repr, Inhabited

/-- A failure to record on a span: the type of the error and its message. -/
structure Failure where
  type : String
  message : String
deriving Repr, Inhabited

/-- A span: its number, its trace, the span it was started under, its name, attributes, events
and status. -/
structure Span where
  id : Nat
  trace : Nat
  parent : Option Nat := none
  name : String
  attrs : List Attr := []
  events : List SpanEvent := []
  status : Status := .unset
  statusMessage : String := ""
deriving Repr, Inhabited

namespace Span

/-- Sets attributes; a key set again takes the new value in its old place. -/
def setAttrs (s : Span) (attrs : List Attr) : Span :=
  let put (acc : List Attr) (a : Attr) : List Attr :=
    if acc.any (·.key = a.key) then acc.map fun b => if b.key = a.key then a else b else acc ++ [a]
  { s with attrs := attrs.foldl put s.attrs }

/-- Adds an event. -/
def addEvent (s : Span) (name : String) (attrs : List Attr := []) : Span :=
  { s with events := s.events ++ [⟨name, attrs⟩] }

/-- The status a span is given at its end: an error with its exception event, or well. -/
def conclude (s : Span) (failure : Option Failure) : Span :=
  match failure with
  | some f =>
    let s := s.addEvent "exception" [⟨"exception.type", .str f.type⟩, ⟨"exception.message", .str f.message⟩]
    { s with status := .error, statusMessage := f.message }
  | none => { s with status := .ok }

end Span

/-- A tracer: whether it records, the number of the next span, and the spans ended so far. -/
structure Tracer where
  recording : Bool := true
  next : Nat := 1
  ended : List Span := []
deriving Repr, Inhabited

namespace Tracer

/-- Starts a span, under a parent when one is given. -/
def start (t : Tracer) (name : String) (parent : Option Span) (attrs : List Attr := []) : Tracer × Span :=
  let s : Span :=
    { id := t.next, trace := (parent.map (·.trace)).getD t.next, parent := parent.map (·.id), name, attrs }
  ({ t with next := t.next + 1 }, s)

/-- Ends a span as it stands. -/
def finish (t : Tracer) (s : Span) : Tracer :=
  if t.recording then { t with ended := t.ended ++ [s] } else t

/-- Ends a span with the status a failure, or its absence, gives. -/
def conclude (t : Tracer) (s : Span) (failure : Option Failure) : Tracer := t.finish (s.conclude failure)

end Tracer
end PassPlan.Trace
