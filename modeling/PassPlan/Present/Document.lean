import PassPlan.Present.Read
import PassPlan.Present.Text
import PassPlan.Json.Writer
/-!
Documents: the things that can be shown, each as plain text for a terminal width or as
indented JSON. A document is read from JSON by the name of its view.
-/
namespace PassPlan.Present

/-- Something that can be shown. -/
inductive Document where
  | backends (bs : List BackendView)
  | flows (fs : List FlowView)
  | plan (p : PlanView)
  | report (r : ReportView)
  | reports (rs : List ReportView)
  | missing (ms : List MissingView)
  | diff (d : DiffView)

/-- Why a document cannot be read. -/
inductive DocumentError where
  /-- No view has the name. -/
  | unknownView (name : String)
  /-- The JSON does not fit the view. -/
  | unreadable (message : String)
deriving DecidableEq, Repr

namespace Document

/-- Reads the document of a named view. -/
def read (view : String) (j : Json) : Except DocumentError Document :=
  let fit (r : Except String Document) := r.mapError DocumentError.unreadable
  match view with
  | "backends" => fit ((readList "BackendDTO" readBackend {} j).map .backends)
  | "flows" => fit ((readList "FlowDTO" readFlow {} j).map .flows)
  | "plan" => fit ((readWith readPlan {} j).map .plan)
  | "report" => fit ((readWith readReport {} j).map .report)
  | "reports" => fit ((readList "ReportDTO" readReport {} j).map .reports)
  | "missing" => fit ((readList "MissingPassDTO" readMissing {} j).map .missing)
  | "diff" => fit ((readWith readDiff {} j).map .diff)
  | v => .error (.unknownView v)

/-- The writes of the plain text view of a document. -/
def text (width : Nat) : Document → List String
  | .backends bs => backendsText width bs
  | .flows fs => flowsText width fs
  | .plan p => planText width p
  | .report r => reportText width r
  | .reports rs => reportsText width rs
  | .missing ms => missingText width ms
  | .diff d => diffText d

/-- The JSON of a document. -/
def toJson : Document → Json
  | .backends bs => .arr (bs.map BackendView.toJson)
  | .flows fs => .arr (fs.map FlowView.toJson)
  | .plan p => p.toJson
  | .report r => r.toJson
  | .reports rs => .arr (rs.map ReportView.toJson)
  | .missing ms => .arr (ms.map MissingView.toJson)
  | .diff d => d.toJson

/-- The JSON of a document, or why it has none. -/
def json? (d : Document) : Except String Json :=
  let problem := match d with
    | .report r => r.jsonProblem?
    | .reports rs => rs.findSome? ReportView.jsonProblem?
    | _ => none
  match problem with
  | some p => .error p
  | none => .ok d.toJson

end Document

/-- The terminal width a requested width gives: a positive width is taken, anything else is
the default of 100 columns. -/
def widthOf (w : Int) : Nat := if w > 0 then w.toNat else 100

end PassPlan.Present
