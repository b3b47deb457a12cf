import QueryCatalog.Json.Basic
import QueryCatalog.Json.Source
import QueryCatalog.KeyMap

namespace QueryCatalog

namespace StringPiece

/-- The text of a string. Two escapes may form one character; half a character is refused. -/
def decode : List StringPiece → Option (List Char)
  | [] => some []
  | .char c :: rest => (decode rest).map (c :: ·)
  | .unit n :: rest =>
    if 0xD800 ≤ n ∧ n < 0xDC00 then
      match rest with
      | .unit m :: rest' =>
        if 0xDC00 ≤ m ∧ m < 0xE000 then
          (decode rest').map
            (Char.ofNat (0x10000 + (n - 0xD800) * 0x400 + (m - 0xDC00)) :: ·)
        else none
      | _ => none
    else if 0xDC00 ≤ n ∧ n < 0xE000 then none
    else (decode rest).map (Char.ofNat n :: ·)

def text? (s : List StringPiece) : Option String := (decode s).map String.ofList

end StringPiece

namespace Numeral

def digitValue (c : Char) : Nat := c.toNat - 48

def natOf (digits : List Char) : Nat := digits.foldl (fun n c ↦ 10 * n + digitValue c) 0

def digitLimit : Nat := Nat.pow 2 64 - 1

def collect (n : Nat) : List Char → Nat × Nat
  | [] => (n, 0)
  | c :: rest =>
    if 10 * n + digitValue c ≤ digitLimit then collect (10 * n + digitValue c) rest
    else (n, rest.length + 1)

/-- The quotient by a power of ten. Large powers are divided out in steps of `10 ^ 308`; three of
them turn every collected number into zero. -/
def scaleDown (x : Binary64) (n : Nat) : Nat → Binary64
  | 0 => x
  | steps + 1 =>
    if n ≤ 308 then x.div (.tenPow n)
    else if x.isZero then x
    else scaleDown (x.div (.tenPow 308)) (n - 308) steps

def scale? (x : Binary64) (e : Int) : Option Binary64 :=
  if e < 0 then some (scaleDown x (-e).toNat 5)
  else if e ≤ 308 then
    let p := x.mul (.tenPow e.toNat)
    if p.isInfinite then none else some p
  else if x.isZero then some x
  else none

def exponentLimit : Nat := Nat.pow 2 31 - 1

/-- The floating point number of a numeral. The digits are collected up to a limit; whole digits
beyond it count as zeros, later ones are left out. -/
def real? (n : Numeral) : Option Binary64 := do
  let (whole, dropped) := collect 0 n.whole
  let (digits, left) := collect whole n.fraction
  let exponent : Int := (dropped : Int) - (n.fraction.length - left)
  let size ← match n.exponent? with
    | none => scale? (.ofNat digits) exponent
    | some (negative, ds) =>
      if exponentLimit < natOf ds then
        if digits ≠ 0 ∧ !negative then none else some (.ofNat 0)
      else scale? (.ofNat digits) (if negative then exponent - natOf ds else exponent + natOf ds)
  return if n.negative then size.neg else size

def isWhole (n : Numeral) : Bool := n.fraction.isEmpty && n.exponent?.isNone

/-- A whole number of 64 bits stays one, with or without sign; all others, and negative zero, are
floating point numbers. -/
def toNumber? (n : Numeral) : Option JsonNumber :=
  let size := natOf n.whole
  if n.isWhole && !n.negative && size < Nat.pow 2 64 then some (.integer size)
  else if n.isWhole && n.negative && 0 < size && size ≤ Nat.pow 2 63 then some (.integer (-size))
  else n.real?.map .real

end Numeral

namespace Json

mutual

def ofSource? (depth : Nat) : JsonSource → Option Json
  | .null => some null
  | .bool b => some (bool b)
  | .number n => n.toNumber?.map number
  | .string s => (StringPiece.text? s).map string
  | .array items =>
    match depth with
    | 0 => none
    | depth + 1 => (itemsOfSource? depth items).map array
  | .object members =>
    match depth with
    | 0 => none
    | depth + 1 => (membersOfSource? depth members).map fun l ↦ object (KeyMap.ofList l).entries

def itemsOfSource? (depth : Nat) : List JsonSource → Option (List Json)
  | [] => some []
  | item :: items => do return (← ofSource? depth item) :: (← itemsOfSource? depth items)

def membersOfSource? (depth : Nat) :
    List (List StringPiece × JsonSource) → Option (List (String × Json))
  | [] => some []
  | (name, value) :: members => do
    return (← StringPiece.text? name, ← ofSource? depth value) :: (← membersOfSource? depth members)

end

def depthLimit : Nat := 127

/-- Reads a document. Members stand in the order of their names, and of members with one name the
last stays. -/
def parse? (text : String) : Option Json := do
  ofSource? depthLimit (← JsonSource.parse? text)

end Json

end QueryCatalog
