import QueryCatalog.Error
import QueryCatalog.Rows.Row
import QueryCatalog.Value.Plain
import QueryCatalog.Value.Tagged

namespace QueryCatalog.Database

inductive Cell
  | null
  | integer (i : Int64)
  | real (x : Binary64)
  | text (s : String)
  | blob (data : List UInt8)
  deriving DecidableEq, Repr

namespace Cell

def ofInt (i : Int) : Result Cell :=
  if Value.fitsInt i then .ok (integer (Int64.ofInt i))
  else if i < 0 then .error (.execution "number too small to fit in target type")
  else .error (.execution "number too large to fit in target type")

/-- The cell that a value is written to. What is not a number becomes null, and lists and objects
become their tagged text. -/
def ofValue : Value → Result Cell
  | .null => .ok null
  | .bool b => .ok (integer (if b then 1 else 0))
  | .int i => .ok (integer i)
  | .float x => .ok (if x.isNaN then null else real x)
  | .string s => .ok (text s)
  | .bytes data => .ok (blob data)
  | .dateTime ns => ofInt ns
  | v => .ok (text v.taggedText)

def toValue : Cell → Value
  | null => .null
  | integer i => .int i
  | real x => .float x
  | text s => .string s
  | blob data => .bytes data

end Cell

/-- Writes values to the marks of a statement. A value is converted as long as there is a mark for
it; then the number of values must be the number of marks. -/
def bindMarks (values : List Value) (marks : Nat) : Result (List Cell) := do
  let cells ← (values.take marks).mapM Cell.ofValue
  if values.length = marks then return cells
  else
    let got := min values.length (marks + 1)
    throw (.execution
      s!"Wrong number of parameters passed to query. Got {got}, needed {marks}")

def markLimit : Nat := 32766

def columnLimit : Nat := 2000

/-- The row of a query that selects its own marks as `c0`, `c1` and so on. A query must select
something. -/
def echo (values : List Value) (marks : Nat) : Result (List Row) := do
  if marks = 0 then throw (.execution "incomplete input")
  if markLimit < marks then throw (.execution "too many SQL variables")
  if columnLimit < marks then throw (.execution "too many columns in result set")
  let cells ← bindMarks values marks
  return [⟨(List.range marks).map fun i ↦ s!"c{i}", cells.map Cell.toValue⟩]

end QueryCatalog.Database
