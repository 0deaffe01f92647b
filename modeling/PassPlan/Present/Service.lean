import PassPlan.Backend.Service
import PassPlan.Present.Record
/-!
The views of what the service answers: backends with their lineage and whether they are the
default, the passes no catalog provides, and two flows side by side.
-/
namespace PassPlan.Present

/-- The view of a backend; it is the default when its name is the default backend's,
normalised. -/
def BackendView.ofBackend (b : Backend) (lineage : List String) (defaultBackend : String) :
    BackendView :=
  { name := b.name, display := b.display, parent := b.parent, lineage,
    description := b.description, defaultFlow := nameText b.defaultFlow,
    writerFlow := nameText b.writerFlow, source := b.source,
    isDefault := b.name = Flow.normalizeBackend defaultBackend }

/-- The view of a missing pass. -/
def MissingView.ofMissing (m : Backend.MissingPass) : MissingView := ⟨m.flow.text, m.pass⟩

/-- The view of two flows side by side. -/
def DiffView.ofRequirementDiff (d : Backend.RequirementDiff) : DiffView :=
  { a := d.a.text, b := d.b.text, aRequires := some (d.aRequires.map Flow.Name.text),
    bRequires := some (d.bRequires.map Flow.Name.text), aPlan := some d.aPlan, bPlan := some d.bPlan }

/-- The views of a service's backends, with their lineage, sorted by name. -/
def backendViews (s : Backend.Service) : List BackendView :=
  s.backends.map fun b =>
    BackendView.ofBackend b ((s.env.backends.lineage b.name).toOption.getD []) s.defaultBackend

end PassPlan.Present
