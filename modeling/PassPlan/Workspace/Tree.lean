import PassPlan.Workspace.Path
import PassPlan.Sql.Database
/-!
A file tree: files, directories and symbolic links by absolute path, and a working directory
that relative paths start from. Links are followed on the way to the last element of a path
and, when the operation asks for it, at that element too; forty links in a row is a loop.
Failures name the operation and the path as the caller wrote it, with the system's reason.
-/
namespace PassPlan.Workspace

/-- What a file holds: text, or a database kept by the history store. -/
inductive Content where
  | text (s : String)
  | database (db : Sql.Database)
deriving Inhabited

/-- An entry of the tree. -/
inductive Node where
  | file (c : Content)
  | dir
  | link (target : String)
deriving Inhabited

/-- Why a file operation failed. -/
inductive Errno where
  | noent
  | notdir
  | isdir
  | exist
  | loop
  | notempty
deriving DecidableEq, Repr

/-- The system's wording of a failure reason. -/
def Errno.text : Errno → String
  | .noent => "no such file or directory"
  | .notdir => "not a directory"
  | .isdir => "is a directory"
  | .exist => "file exists"
  | .loop => "too many levels of symbolic links"
  | .notempty => "directory not empty"

/-- A failed operation on a path. -/
structure PathError where
  op : String
  path : String
  errno : Errno
deriving DecidableEq, Repr

/-- The message of a failed operation: the operation, the path and the reason. -/
def PathError.text (e : PathError) : String := e.op ++ " " ++ e.path ++ ": " ++ e.errno.text

/-- A file tree with a working directory. -/
structure Tree where
  nodes : List (String × Node) := []
  cwd : String := "/"
deriving Inhabited

namespace Tree

/-- The entry at an absolute clean path; the root is always a directory. -/
def node? (t : Tree) (p : String) : Option Node :=
  if p = "/" then some .dir else t.nodes.lookup p

/-- Sets the entry at an absolute clean path. -/
def put (t : Tree) (p : String) (n : Node) : Tree :=
  { t with nodes := t.nodes.filter (·.1 ≠ p) ++ [(p, n)] }

/-- Removes the entry at an absolute clean path. -/
def erase (t : Tree) (p : String) : Tree := { t with nodes := t.nodes.filter (·.1 ≠ p) }

/-- The child path of a directory path. -/
def child (d c : String) : String := if d = "/" then "/" ++ c else d ++ "/" ++ c

/-- Walks the elements of an absolute path from a real directory, following links. -/
def walk (t : Tree) (follow : Bool) : Nat → String → List String → Except Errno String
  | _, here, [] => .ok here
  | fuel, here, c :: rest =>
    let next := child here c
    match t.node? next with
    | none => if rest = [] then .ok next else .error .noent
    | some .dir => walk t follow fuel next rest
    | some (.file _) => if rest = [] then .ok next else .error .notdir
    | some (.link target) =>
      if rest = [] && !follow then .ok next
      else
        match fuel with
        | 0 => .error .loop
        | fuel + 1 => walk t follow fuel "/" (Path.elements (Path.abs here target) ++ rest)
termination_by fuel _ rest => (fuel, rest.length)

/-- The real path a path names. -/
def resolve (t : Tree) (follow : Bool) (p : String) : Except Errno String :=
  t.walk follow 40 "/" (Path.elements (Path.abs t.cwd p))

/-- The entry a path names, its last link followed when asked. -/
def entry (t : Tree) (follow : Bool) (p : String) : Except Errno Node := do
  let real ← t.resolve follow p
  match t.node? real with
  | some n => pure n
  | none => throw .noent

/-- Whether a path names a directory, following links. -/
def isDir (t : Tree) (p : String) : Bool :=
  match t.entry true p with
  | .ok .dir => true
  | _ => false

/-- Whether a path names a regular file, following links. -/
def isFile (t : Tree) (p : String) : Bool :=
  match t.entry true p with
  | .ok (.file _) => true
  | _ => false

/-- The content of a file. -/
def read (t : Tree) (p : String) : Except PathError Content :=
  match t.entry true p with
  | .error e => .error ⟨"open", p, e⟩
  | .ok .dir => .error ⟨"read", p, .isdir⟩
  | .ok (.file c) => .ok c
  | .ok (.link _) => .error ⟨"open", p, .loop⟩

/-- The text of a file; a database reads as no text. -/
def readText (t : Tree) (p : String) : Except PathError String := do
  match ← t.read p with
  | .text s => pure s
  | .database _ => pure ""

/-- Creates or truncates a file, through a link at its last element. -/
def write (t : Tree) (p : String) (c : Content) : Except PathError Tree :=
  match t.resolve true p with
  | .error e => .error ⟨"open", p, e⟩
  | .ok real =>
    match t.node? real with
    | some .dir => .error ⟨"open", p, .isdir⟩
    | _ => .ok (t.put real (.file c))

/-- Writes text to a file. -/
def writeText (t : Tree) (p s : String) : Except PathError Tree := t.write p (.text s)

/-- Creates a directory; anything already there, a dangling link included, is in the way. -/
def mkdir (t : Tree) (p : String) : Except PathError Tree :=
  match t.resolve false p with
  | .error e => .error ⟨"mkdir", p, e⟩
  | .ok real =>
    match t.node? real with
    | some _ => .error ⟨"mkdir", p, .exist⟩
    | none => .ok (t.put real .dir)

/-- The path before its last element, as directory creation climbs: trailing slashes and the
last element dropped, and the slash before it. -/
def parentText (p : String) : String :=
  let cs := (p.toList.reverse.dropWhile (· = '/')).dropWhile (· ≠ '/')
  String.ofList (cs.drop 1).reverse

/-- Creates a directory and every missing parent; an existing directory is fine. -/
def mkdirAll (t : Tree) (p : String) : Except PathError Tree := go (p.length + 1) t p
where
  go : Nat → Tree → String → Except PathError Tree
    | 0, t, _ => .ok t
    | fuel + 1, t, p =>
      match t.entry true p with
      | .ok .dir => .ok t
      | .ok _ => .error ⟨"mkdir", p, .notdir⟩
      | .error _ => do
        let parent := parentText p
        let t ← if parent.length > 0 then go fuel t parent else pure t
        match t.mkdir p with
        | .ok t' => pure t'
        | .error e =>
          match t.entry false p with
          | .ok .dir => pure t
          | _ => throw e

/-- The entries strictly below a directory. -/
def below (t : Tree) (d : String) : List (String × Node) :=
  t.nodes.filter fun (q, _) => (Path.relativeTo? d q).any (· ≠ ".")

/-- Removes a file, a link or an empty directory. -/
def remove (t : Tree) (p : String) : Except PathError Tree :=
  match t.resolve false p with
  | .error e => .error ⟨"remove", p, e⟩
  | .ok real =>
    match t.node? real with
    | none => .error ⟨"remove", p, .noent⟩
    | some .dir => if (t.below real).isEmpty then .ok (t.erase real) else .error ⟨"remove", p, .notempty⟩
    | some _ => .ok (t.erase real)

/-- Removes a path and everything below it; a missing path is fine. -/
def removeAll (t : Tree) (p : String) : Tree :=
  match t.resolve false p with
  | .error _ => t
  | .ok real =>
    { t with nodes := t.nodes.filter fun (q, _) => q ≠ real && (Path.relativeTo? real q).isNone }

/-- Moves an entry, and everything below it, to a new path; an existing file there is replaced. -/
def rename (t : Tree) (src dst : String) : Except String Tree := do
  let fail (e : Errno) : String := "rename " ++ src ++ " " ++ dst ++ ": " ++ e.text
  let from_ ← (t.resolve false src).mapError fail
  let to_ ← (t.resolve false dst).mapError fail
  let some n := t.node? from_ | throw (fail .noent)
  match t.node? to_, n with
  | some .dir, .dir => if (t.below to_).isEmpty then pure () else throw (fail .notempty)
  | some .dir, _ => throw (fail .isdir)
  | some _, .dir => throw (fail .notdir)
  | _, _ => pure ()
  let moved := t.nodes.filterMap fun (q, m) =>
    if q = from_ then some (to_, m)
    else (Path.relativeTo? from_ q).map fun r => (to_ ++ "/" ++ r, m)
  let kept := t.nodes.filter fun (q, _) =>
    q ≠ from_ && (Path.relativeTo? from_ q).isNone && q ≠ to_
  pure { t with nodes := kept ++ moved }

/-- The names in a directory, sorted, with their entries. -/
def entries (t : Tree) (d : String) : List (String × Node) :=
  let real := (t.resolve true d).toOption.getD d
  let direct := t.nodes.filterMap fun (q, n) =>
    match Path.relativeTo? real q with
    | some r => if r ≠ "." && !r.contains '/' then some (r, n) else none
    | none => none
  direct.mergeSort fun a b => a.1 ≤ b.1

/-- Every path below a directory relative to it, sorted, with a slash after each directory. -/
def listing (t : Tree) (root : String) : List String :=
  let items := (t.below root).filterMap fun (q, n) =>
    (Path.relativeTo? root q).map fun r =>
      match n with
      | .dir => r ++ "/"
      | _ => r
  items.mergeSort fun a b => a ≤ b

/-- What a new tree starts with at a path. -/
inductive Seed where
  | text (s : String)
  | dir
  | link (target : String)

/-- A tree whose working directory is a root directory holding the seeds, created in order of
their paths with missing parents made, and a home directory. -/
def seeded (root : String) (seeds : List (String × Seed)) : Tree :=
  let base : Tree := { nodes := [], cwd := root }
  let base := (base.mkdirAll root).toOption.getD base
  let plant (t : Tree) (entry : String × Seed) : Tree :=
    let (p, seed) := entry
    let t := (t.mkdirAll (Path.dir p)).toOption.getD t
    let made := match seed with
      | .text s => t.writeText p s
      | .dir => t.mkdirAll p
      | .link target => .ok (t.put (Path.abs t.cwd p) (.link target))
    made.toOption.getD t
  let sorted := seeds.mergeSort fun a b => a.1 ≤ b.1
  plant (sorted.foldl plant base) ("home", .dir)

end Tree
end PassPlan.Workspace
