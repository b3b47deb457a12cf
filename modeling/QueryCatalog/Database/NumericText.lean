import QueryCatalog.Binary64.Basic
import QueryCatalog.Value.Plain

namespace QueryCatalog.Database

/-- A floating point number as a whole number of 64 bits, if it is one. The smallest of them does
not count. -/
def wholeNumber? (x : Binary64) : Option Int :=
  let (num, den) := x.ratio
  let size : Int := num / den
  let i := if x.isNegative then -size else size
  if x.isFinite && num % den == 0 && Value.fitsInt i && Value.fitsInt (i - 1) then some i else none

namespace NumericText

def isBlank (c : Char) : Bool := c == ' ' || (9 ≤ c.toNat && c.toNat ≤ 13)

structure Digits where
  value : Nat
  exponent : Int

def enough : Nat := 1844674407370955160

def addWhole (d : Digits) (c : Char) : Digits :=
  if enough ≤ d.value then { d with exponent := d.exponent + 1 }
  else { d with value := 10 * d.value + (c.toNat - 48) }

def addPlace (d : Digits) (c : Char) : Digits :=
  if enough ≤ d.value then d else ⟨10 * d.value + (c.toNat - 48), d.exponent - 1⟩

/-- The value of an exponent; beyond ten thousand its size does not matter. -/
def exponentValue (digits : List Char) : Nat :=
  digits.foldl (fun n c ↦ if n < 10000 then 10 * n + (c.toNat - 48) else 10000) 0

def readSign : List Char → Bool × List Char
  | '-' :: rest => (true, rest)
  | '+' :: rest => (false, rest)
  | s => (false, s)

def readDigits (s : List Char) : List Char × List Char :=
  (s.takeWhile Char.isDigit, s.dropWhile Char.isDigit)

structure Spelling where
  negative : Bool
  whole : List Char
  places? : Option (List Char)
  exponent? : Option (Bool × List Char)

def readSpelling (s : List Char) : Option (Spelling × List Char) :=
  let (negative, s) := readSign (s.dropWhile isBlank)
  let (whole, s) := readDigits s
  let (places?, s) := match s with
    | '.' :: rest => (some (readDigits rest).1, (readDigits rest).2)
    | s => (none, s)
  if whole.isEmpty && (places?.getD []).isEmpty then none
  else
    let withExponent (rest : List Char) : Option (Spelling × List Char) :=
      let (sign, rest) := readSign rest
      let (digits, rest) := readDigits rest
      if digits.isEmpty then none
      else some (⟨negative, whole, places?, some (sign, digits)⟩, rest)
    match s with
    | 'e' :: rest => withExponent rest
    | 'E' :: rest => withExponent rest
    | s => some (⟨negative, whole, places?, none⟩, s)

namespace Spelling

def digits (n : Spelling) : Digits :=
  let d := (n.places?.getD []).foldl addPlace (n.whole.foldl addWhole ⟨0, 0⟩)
  match n.exponent? with
  | some (true, e) => { d with exponent := d.exponent - exponentValue e }
  | some (false, e) => { d with exponent := d.exponent + exponentValue e }
  | none => d

def real (n : Spelling) : Binary64 :=
  let d := n.digits
  let size :=
    if d.value = 0 then Binary64.ofNat 0
    else Binary64.ofRatio (d.value * Nat.pow 10 d.exponent.toNat) (Nat.pow 10 (-d.exponent).toNat)
  if n.negative then size.neg else size

def integer? (n : Spelling) : Option Int :=
  if n.places?.isSome || n.exponent?.isSome then none
  else
    let size : Int := n.whole.foldl (fun i c ↦ 10 * i + (c.toNat - 48)) 0
    let i := if n.negative then -size else size
    if Value.fitsInt i then some i else none

end Spelling

end NumericText

/-- The whole number that a text spells, as it stands or by the floating point number next to
it. -/
def wholeNumberOfText? (text : String) : Option Int := do
  let (n, rest) ← NumericText.readSpelling text.toList
  if rest.all NumericText.isBlank then n.integer? <|> wholeNumber? n.real else none

end QueryCatalog.Database
