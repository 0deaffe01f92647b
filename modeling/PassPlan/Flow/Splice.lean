import PassPlan.Flow.Error
/-!
Splicing prerequisites into a requirement list. Each insertion names an anchor already in the
list and a prerequisite that lands right before or right after the anchor's first occurrence;
insertions apply in order, each to the list the earlier ones left.
-/
namespace PassPlan.Flow

/-- The side of its anchor on which an insertion lands; a side may also be given by a number,
of which 0 is before and 1 is after. -/
inductive Position where
  | before
  | after
  /-- A number that names neither side. -/
  | other (code : Int)
deriving DecidableEq, Repr, Inhabited

namespace Position

/-- The position a number stands for. -/
def ofCode : Int → Position
  | 0 => before
  | 1 => after
  | n => other n

/-- The text of a position. -/
def text : Position → String
  | before => "before"
  | after => "after"
  | other n => "Position(" ++ toString n ++ ")"

end Position

/-- A prerequisite to place next to an anchor. -/
structure Insertion where
  anchor : Name
  prerequisite : Name
  position : Position := .before
deriving DecidableEq, Repr

/-- One insertion applied to a list: the anchor's first index, then the side. -/
def Insertion.apply (out : List Name) (ins : Insertion) : Except Error (List Name) :=
  match out.idxOf? ins.anchor with
  | none => .error (.anchorMissing ins.anchor out Name.zero)
  | some i =>
    match ins.position with
    | .before => .ok (out.take i ++ ins.prerequisite :: out.drop i)
    | .after => .ok (out.take (i + 1) ++ ins.prerequisite :: out.drop (i + 1))
    | .other c => .error (.badPosition c)

/-- Applies the insertions in order to the requirement list. -/
def splice (requires : List Name) (insertions : List Insertion) : Except Error (List Name) :=
  insertions.foldlM Insertion.apply requires

end PassPlan.Flow
