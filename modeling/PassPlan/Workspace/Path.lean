/-!
Slash-separated file paths: the lexical rules that clean, join and split them. A path is rooted
when it starts with a slash; cleaning keeps a rooted path rooted and drops each `..` that would
climb above the root.
-/
namespace PassPlan.Workspace.Path

/-- Whether a path starts at the root. -/
def isAbs (p : String) : Bool := p.startsWith "/"

/-- The elements of a path, with empty and `.` elements dropped and each `..` cancelling the
element before it. -/
def elements (p : String) : List String :=
  let step (acc : List String) (s : String) : List String :=
    if s = "" || s = "." then acc
    else if s = ".." then
      match acc with
      | x :: rest => if x = ".." then ".." :: acc else rest
      | [] => if isAbs p then [] else [".."]
    else s :: acc
  (((p.toList.splitOn '/').map String.ofList).foldl step []).reverse

/-- The shortest path naming the same file by lexical rules alone. -/
def clean (p : String) : String :=
  let body := "/".intercalate (elements p)
  if isAbs p then "/" ++ body else if body = "" then "." else body

/-- The non-empty parts joined by slashes and cleaned; empty when every part is. -/
def join (parts : List String) : String :=
  match parts.filter (· ≠ "") with
  | [] => ""
  | ps => clean ("/".intercalate ps)

/-- Everything before the last slash, cleaned; `.` when there is no slash. -/
def dir (p : String) : String :=
  let cs := p.toList
  match cs.reverse.findIdx? (· = '/') with
  | none => "."
  | some k => clean (String.ofList (cs.take (cs.length - k)))

/-- The last element, ignoring trailing slashes. -/
def base (p : String) : String :=
  if p = "" then "."
  else
    let cs := (p.toList.reverse.dropWhile (· = '/')).reverse
    if cs = [] then "/" else String.ofList (cs.reverse.takeWhile (· ≠ '/')).reverse

/-- The extension of the last element, from its last dot. -/
def ext (p : String) : String :=
  let cs := p.toList.reverse.takeWhile (· ≠ '/')
  match cs.findIdx? (· = '.') with
  | none => ""
  | some k => String.ofList (cs.take (k + 1)).reverse

/-- A path made absolute against a working directory. -/
def abs (cwd p : String) : String := if isAbs p then clean p else clean (cwd ++ "/" ++ p)

/-- The path of a file below a directory, relative to it, when it is below it. -/
def relativeTo? (root p : String) : Option String :=
  if p = root then some "."
  else if root = "/" then (if isAbs p then some (p.drop 1).toString else none)
  else if p.startsWith (root ++ "/") then some (p.drop (root.length + 1)).toString
  else none

end PassPlan.Workspace.Path
