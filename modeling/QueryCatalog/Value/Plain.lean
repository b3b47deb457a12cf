import QueryCatalog.Json.Decode
import QueryCatalog.Value.Basic

namespace QueryCatalog.Value

def fitsInt (i : Int) : Bool := -Int.pow 2 63 ≤ i && i < Int.pow 2 63

def ofNumber : JsonNumber → Value
  | .integer i =>
    if fitsInt i then int (Int64.ofInt i)
    else
      let size := Binary64.ofNat i.natAbs
      float (if i < 0 then size.neg else size)
  | .real x => float x

mutual

def ofJson : Json → Value
  | .null => null
  | .bool b => bool b
  | .number n => ofNumber n
  | .string s => string s
  | .array items => list (listOfJson items)
  | .object members => object (propertiesOfJson members)

def listOfJson : List Json → List Value
  | [] => []
  | item :: items => ofJson item :: listOfJson items

def propertiesOfJson : List (String × Json) → List (String × Value)
  | [] => []
  | (name, value) :: members => (name, ofJson value) :: propertiesOfJson members

end

/-- An instant is a number if it is one of 64 bits, and text otherwise. -/
def instantToJson (ns : Int) : Json :=
  if fitsInt ns then .number (.integer ns) else .string (toString ns)

mutual

def toJson : Value → Json
  | null => .null
  | bool b => .bool b
  | int i => .number (.integer i.toInt)
  | float x => if x.isFinite then .number (.real x) else .null
  | string s => .string s
  | bytes data => .array (data.map fun b ↦ .number (.integer b.toNat))
  | dateTime ns => instantToJson ns
  | list items => .array (listToJson items)
  | object properties => .object (propertiesToJson properties)

def listToJson : List Value → List Json
  | [] => []
  | item :: items => toJson item :: listToJson items

def propertiesToJson : List (String × Value) → List (String × Json)
  | [] => []
  | (name, value) :: properties => (name, toJson value) :: propertiesToJson properties

end

end QueryCatalog.Value
