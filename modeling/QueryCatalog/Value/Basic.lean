import QueryCatalog.Binary64.Shortest
import QueryCatalog.KeyMap

namespace QueryCatalog

inductive Value
  | null
  | bool (b : Bool)
  | int (i : Int64)
  | float (x : Binary64)
  | string (s : String)
  | bytes (data : List UInt8)
  /-- A count of nanoseconds since the start of 1970 in UTC. -/
  | dateTime (nanoseconds : Int)
  | list (items : List Value)
  /-- Named properties in increasing order of their names. -/
  | object (properties : List (String × Value))
  deriving Repr, Inhabited

namespace Value

def isNull : Value → Bool
  | null => true
  | _ => false

def items? : Value → Option (List Value)
  | list items => some items
  | _ => none

def properties? : Value → Option (KeyMap Value)
  | object properties => some (KeyMap.ofList properties)
  | _ => none

def ofProperties (m : KeyMap Value) : Value := object m.entries

def typeName : Value → String
  | null => "null"
  | bool _ => "bool"
  | int _ => "int"
  | float _ => "float"
  | string _ => "string"
  | bytes _ => "bytes"
  | dateTime _ => "datetime"
  | list _ => "list"
  | object _ => "object"

def size? (v : Value) : Option Nat := v.items?.map List.length

/-- The shortest digits, never with an exponent, and no point in whole numbers. -/
def floatLayout : Binary64.Layout where
  tie := .up
  positional _ := true
  wholeEnd := ""

def floatText (x : Binary64) : String :=
  if x.isNaN then "NaN"
  else if x.isInfinite then (if x.isNegative then "-inf" else "inf")
  else x.write floatLayout

def boolText (b : Bool) : String := if b then "true" else "false"

def upperHexDigit (n : Nat) : Char :=
  if n < 10 then Char.ofNat (48 + n) else Char.ofNat (55 + n)

def byteText (b : UInt8) : List Char := [upperHexDigit (b.toNat / 16), upperHexDigit (b.toNat % 16)]

mutual

def display : Value → String
  | null => "NULL"
  | bool b => boolText b
  | int i => toString i.toInt
  | float x => floatText x
  | string s => s
  | bytes data => "X'" ++ String.ofList (data.flatMap byteText) ++ "'"
  | dateTime ns => toString ns
  | list [] => ""
  | list (v :: vs) => display v ++ displayMore vs
  | object _ => "<object>"

def displayMore : List Value → String
  | [] => ""
  | v :: vs => ", " ++ display v ++ displayMore vs

end

end Value

end QueryCatalog
