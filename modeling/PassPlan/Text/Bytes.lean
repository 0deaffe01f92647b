/-!
Cutting text by its UTF-8 bytes. A character that the cut splits leaves one replacement
character for each of its bytes that were kept, as a reader of the cut bytes would show them.
-/
namespace PassPlan.Text

/-- The first bytes of a text, at most `n`. -/
def takeBytes (s : String) (n : Nat) : String :=
  let rec go : List Char → Nat → List Char
    | [], _ => []
    | c :: cs, room =>
      let w := c.utf8Size
      if w ≤ room then c :: go cs (room - w)
      else List.replicate room (Char.ofNat 0xFFFD)
  String.ofList (go s.toList n)

end PassPlan.Text
