import PassPlan.Value.Time
/-!
TOML documents as written: the values a document holds and the lines that say something, a
pair under a dotted key, a table header or an array-of-tables header. Reading text into these
is in `Toml.Read`; what a document means as one table is in `Toml.Table`.
-/
namespace PassPlan.Toml

/-- A date, a time of day or both, as TOML writes them, with an offset in seconds east of UTC
when one is given. -/
structure Moment where
  date : Option (Int × Nat × Nat) := none
  time : Option (Nat × Nat × Nat × Nat) := none
  offset : Option Int := none
deriving Repr, Inhabited

/-- A value as written in a document. -/
inductive Datum where
  | str (s : String)
  | int (i : Int)
  | float (f : Float)
  | bool (b : Bool)
  | moment (m : Moment)
  | array (xs : List Datum)
  /-- An inline table: its pairs in order, each under a dotted key. -/
  | inline (pairs : List (List String × Datum))
deriving Repr, Inhabited

/-- A line of a document that says something. -/
inductive Expr where
  /-- A value under a dotted key, in the table of the last header. -/
  | pair (key : List String) (value : Datum)
  /-- A table header: the pairs after it go into that table. -/
  | table (key : List String)
  /-- An array-of-tables header: a new table at the end of that array takes the pairs after it. -/
  | arrayTable (key : List String)
deriving Repr, Inhabited

/-- The instant a moment names: one without an offset is read at UTC, and a time of day alone
on the first day of the epoch. -/
def Moment.instant (m : Moment) : Instant :=
  let (y, mo, d) := m.date.getD (1970, 1, 1)
  let (h, mi, s, n) := m.time.getD (0, 0, 0, 0)
  let off := m.offset.getD 0
  { seconds := Civil.toSeconds ⟨y, mo, d, h, mi, s⟩ - off, nanos := n, offset := off }

end PassPlan.Toml
