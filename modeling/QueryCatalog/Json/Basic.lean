import QueryCatalog.Binary64.Shortest

namespace QueryCatalog

/-- A number keeps whether it was a whole number or a floating point number. -/
inductive JsonNumber
  | integer (i : Int)
  | real (x : Binary64)
  deriving DecidableEq, Repr, Inhabited

inductive Json
  | null
  | bool (b : Bool)
  | number (n : JsonNumber)
  | string (s : String)
  | array (items : List Json)
  | object (members : List (String × Json))
  deriving Repr, Inhabited

namespace Json

def hexDigit (n : Nat) : Char :=
  if n < 10 then Char.ofNat (48 + n) else Char.ofNat (87 + n)

def escape (c : Char) : List Char :=
  if c = '\"' then ['\\', '\"']
  else if c = '\\' then ['\\', '\\']
  else if c = '\n' then ['\\', 'n']
  else if c = '\r' then ['\\', 'r']
  else if c = '\t' then ['\\', 't']
  else if c.toNat = 8 then ['\\', 'b']
  else if c.toNat = 12 then ['\\', 'f']
  else if c.toNat < 32 then ['\\', 'u', '0', '0', hexDigit (c.toNat / 16), hexDigit (c.toNat % 16)]
  else [c]

def writeString (s : String) : List Char := '\"' :: s.toList.flatMap escape ++ ['\"']

/-- The shortest digits; whole numbers end in `.0`; an exponent from `1e16` on and below `1e-5`. -/
def realLayout : Binary64.Layout where
  tie := .toEven
  positional place := -5 < place && place ≤ 16
  wholeEnd := ".0"

/-- A number that is infinite or not a number is written as null. -/
def writeNumber : JsonNumber → List Char
  | .integer i => (toString i).toList
  | .real x => if x.isFinite then (x.write realLayout).toList else ['n', 'u', 'l', 'l']

mutual

def write : Json → List Char
  | null => ['n', 'u', 'l', 'l']
  | bool true => ['t', 'r', 'u', 'e']
  | bool false => ['f', 'a', 'l', 's', 'e']
  | number n => writeNumber n
  | string s => writeString s
  | array [] => ['[', ']']
  | array (item :: items) => '[' :: write item ++ writeItems items
  | object [] => ['{', '}']
  | object (m :: members) => '{' :: writeMember m ++ writeMembers members

def writeItems : List Json → List Char
  | [] => [']']
  | item :: items => ',' :: write item ++ writeItems items

def writeMember : String × Json → List Char
  | (name, value) => writeString name ++ ':' :: write value

def writeMembers : List (String × Json) → List Char
  | [] => ['}']
  | m :: members => ',' :: writeMember m ++ writeMembers members

end

def compact (j : Json) : String := String.ofList j.write

def newline (depth : Nat) : List Char := '\n' :: List.replicate (2 * depth) ' '

mutual

def writeIndented (depth : Nat) : Json → List Char
  | array (item :: items) =>
    '[' :: newline (depth + 1) ++ writeIndented (depth + 1) item ++ indentItems depth items
  | object (m :: members) =>
    '{' :: newline (depth + 1) ++ indentMember (depth + 1) m ++ indentMembers depth members
  | array [] => ['[', ']']
  | object [] => ['{', '}']
  | null => ['n', 'u', 'l', 'l']
  | bool b => write (bool b)
  | number n => writeNumber n
  | string s => writeString s

def indentItems (depth : Nat) : List Json → List Char
  | [] => newline depth ++ [']']
  | item :: items =>
    ',' :: newline (depth + 1) ++ writeIndented (depth + 1) item ++ indentItems depth items

def indentMember (depth : Nat) : String × Json → List Char
  | (name, value) => writeString name ++ ':' :: ' ' :: writeIndented depth value

def indentMembers (depth : Nat) : List (String × Json) → List Char
  | [] => newline depth ++ ['}']
  | m :: members =>
    ',' :: newline (depth + 1) ++ indentMember (depth + 1) m ++ indentMembers depth members

end

def indented (j : Json) : String := String.ofList (j.writeIndented 0)

end Json

end QueryCatalog
