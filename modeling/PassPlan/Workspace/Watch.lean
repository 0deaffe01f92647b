import PassPlan.Workspace.Tree
import PassPlan.Text.Lower
/-!
Watching a directory of pipeline files. A change is a file written, created or removed directly
in the directory; it counts when its name is not hidden and its extension, in lower case, is
one the watcher looks for. Changes are debounced: a signal is given once no counted change has
come for the debounce time, so a burst of changes gives one signal.
-/
namespace PassPlan.Workspace

/-- A watcher: the directory, the extensions that count and the debounce time in milliseconds. -/
structure Watcher where
  dir : String
  extensions : List String := [".yaml", ".yml"]
  debounce : Nat := 500
deriving Repr, Inhabited

namespace Watcher

/-- Starts watching; the directory must exist. -/
def start (w : Watcher) (t : Tree) : Except String Unit :=
  match t.entry true w.dir with
  | .error e => .error ("watching directory " ++ w.dir ++ ": " ++ e.text)
  | .ok _ => .ok ()

/-- Whether a change to an entry of the directory with this name counts. -/
def counts (w : Watcher) (name : String) : Bool :=
  !name.startsWith "." && w.extensions.contains (Text.lower (Path.ext name))

/-- The real path of an entry: its directory's links followed, the entry itself kept. -/
def realPath (t : Tree) (p : String) : String :=
  let d := (t.resolve true (Path.dir p)).toOption.getD (Path.abs t.cwd (Path.dir p))
  Tree.child d (Path.base p)

/-- The paths from a path up to the root, the path itself first. -/
def lineage (p : String) : List String :=
  let parts := Path.elements (Path.abs "/" p)
  (List.range parts.length).reverse.map fun n => "/" ++ "/".intercalate (parts.take (n + 1))

/-- Applies one write, a text or a removal, and tells the entries it created, changed or
removed. Missing directories are made for a text. -/
def write (t : Tree) (p : String) (content : Option String) : Tree × List String :=
  let real := realPath t p
  match content with
  | some text =>
    let made := (lineage (Path.dir real)).filter fun q => (t.node? q).isNone
    let t := (t.mkdirAll (Path.dir p)).toOption.getD t
    ((t.writeText p text).toOption.getD t, made ++ [real])
  | none =>
    if (t.node? real).isSome then (t.removeAll p, [real]) else (t, [])

/-- Applies writes in order of their paths, and tells whether a change counted. -/
def apply (w : Watcher) (t : Tree) (writes : List (String × Option String)) : Tree × Bool :=
  let watched := (t.resolve true w.dir).toOption.getD (Path.abs t.cwd w.dir)
  let sorted := writes.mergeSort fun a b => decide (a.1 ≤ b.1)
  sorted.foldl (fun (t, hit) (p, c) =>
    let (t, touched) := write t p c
    (t, hit || touched.any fun q => Path.dir q = watched && w.counts (Path.base q))) (t, false)

/-- The times signals are given: a counted change at each of the times, each signal coming a
debounce after the last change unless another change comes first. -/
def fireTimes (debounce : Nat) : List Nat → List Nat
  | [] => []
  | [e] => [e + debounce]
  | e :: e' :: rest => if e' < e + debounce then fireTimes debounce (e' :: rest) else (e + debounce) :: fireTimes debounce (e' :: rest)

/-- The signals seen in each of a run of windows, each window starting with its writes and
lasting its wait in milliseconds. -/
def signals (w : Watcher) (t : Tree) (batches : List (List (String × Option String) × Nat)) : List Nat :=
  let (_, _, windows) := batches.foldl (fun (t, start, acc) (writes, wait) =>
    let (t, hit) := w.apply t writes
    (t, start + wait, acc ++ [(start, wait, hit)])) (t, 0, ([] : List (Nat × Nat × Bool)))
  let fires := fireTimes w.debounce (windows.filterMap fun (s, _, hit) => if hit then some s else none)
  windows.map fun (s, wait, _) => (fires.filter fun f => s ≤ f && f < s + wait).length

end Watcher
end PassPlan.Workspace
