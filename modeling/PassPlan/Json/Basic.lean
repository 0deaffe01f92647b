/-!
JSON documents. Numbers keep the text they were written with, so no digit is lost between
reading and writing; objects keep their members in order.
-/
namespace PassPlan

/-- A JSON document. -/
inductive Json where
  | null
  | bool (b : Bool)
  /-- A number, as its text. -/
  | num (text : String)
  | str (s : String)
  | arr (xs : List Json)
  | obj (kvs : List (String × Json))
deriving Inhabited, Repr, BEq

namespace Json

/-- An integer. -/
def int (i : Int) : Json := num (toString i)

/-- A natural number. -/
def nat (n : Nat) : Json := num (toString n)

/-- The member of an object under a key, the last one if there are several. -/
def field? (j : Json) (k : String) : Option Json :=
  match j with
  | obj kvs => (kvs.reverse.lookup k)
  | _ => none

/-- A string, or none for anything else. -/
def str? : Json → Option String
  | str s => some s
  | _ => none

/-- A list of strings or `null`, otherwise none. -/
def strs? : Json → Option (List String)
  | arr xs => xs.mapM str?
  | null => some []
  | _ => none

/-- An array's elements, or none. -/
def arr? : Json → Option (List Json)
  | arr xs => some xs
  | _ => none

/-- A boolean, or none. -/
def bool? : Json → Option Bool
  | bool b => some b
  | _ => none

/-- An integer written without fraction or exponent, or none. -/
def int? : Json → Option Int
  | num t => t.toInt?
  | _ => none

/-- An optional member that must be present and not null. -/
def opt (j : Json) (k : String) : Option Json :=
  match j.field? k with
  | some null => none
  | x => x

end Json
end PassPlan
