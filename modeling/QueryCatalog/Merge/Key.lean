import QueryCatalog.Text.Visible
import QueryCatalog.Value.Tagged

namespace QueryCatalog.Merge

inductive KeyPart
  | null
  | bool (b : Bool)
  | int (i : Int64)
  | float (x : Binary64)
  | string (s : String)
  | bytes (data : List UInt8)
  | dateTime (nanoseconds : Int)
  | composite (text : String)
  deriving DecidableEq, Repr

namespace KeyPart

def ofValue : Value → KeyPart
  | .null => null
  | .bool b => bool b
  | .int i => int i
  | .float x => float x
  | .string s => string s
  | .bytes data => bytes data
  | .dateTime ns => dateTime ns
  | v => composite v.taggedText

def display : KeyPart → String
  | null => "NULL"
  | bool b => Value.boolText b
  | int i => toString i.toInt
  | float x => Value.floatText x
  | string s => Text.quoted s
  | bytes data => "<" ++ Nat.repr data.length ++ " bytes>"
  | dateTime ns => toString ns
  | composite text => text

end KeyPart

abbrev Key := List KeyPart

namespace Key

def ofValues (values : List Value) (positions : List Nat) : Key :=
  positions.map fun i ↦ KeyPart.ofValue (values[i]?.getD .null)

def isAllNull (k : Key) : Bool := k.all (· == .null)

def display (k : Key) : String := "(" ++ ", ".intercalate (k.map KeyPart.display) ++ ")"

end Key

end QueryCatalog.Merge
