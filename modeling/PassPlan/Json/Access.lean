import PassPlan.Json.Basic
/-!
Reading members of JSON objects with defaults: a member that is missing or of another kind
reads as null, the empty text, no texts, zero, false or no items.
-/
namespace PassPlan.Json

/-- A member, null when missing. -/
def get (j : Json) (k : String) : Json := (j.field? k).getD .null

/-- A text member, empty when missing or not a text. -/
def text (j : Json) (k : String) : String := ((j.field? k).bind str?).getD ""

/-- A member holding texts, none when missing or of another kind. -/
def texts (j : Json) (k : String) : List String := ((j.field? k).bind strs?).getD []

/-- An integer member, zero when missing or not an integer. -/
def integer (j : Json) (k : String) : Int := ((j.field? k).bind int?).getD 0

/-- A boolean member, false when missing or not a boolean. -/
def flag (j : Json) (k : String) : Bool := ((j.field? k).bind bool?).getD false

/-- An array member's items, none when missing or not an array. -/
def items (j : Json) (k : String) : List Json := ((j.field? k).bind arr?).getD []

end PassPlan.Json
