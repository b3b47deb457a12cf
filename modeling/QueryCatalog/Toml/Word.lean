import QueryCatalog.Toml.Basic
import QueryCatalog.Value.Instant

namespace QueryCatalog.Toml

def isWordChar (c : Char) : Bool :=
  c.isAlphanum || c == '_' || c == '-' || c == '+' || c == '.' || c == ':'

/-- Takes the underscores out of digits; every underscore stands between two digits. -/
def ungroup (isDigit : Char → Bool) : List Char → Option (List Char)
  | [] => none
  | [c] => if isDigit c then some [c] else none
  | c :: '_' :: rest => if isDigit c then (ungroup isDigit rest).map (c :: ·) else none
  | c :: rest => if isDigit c then (ungroup isDigit rest).map (c :: ·) else none

def digitValue (c : Char) : Nat :=
  if c.isDigit then c.toNat - 48 else if 97 ≤ c.toNat then c.toNat - 87 else c.toNat - 55

def isDigitOf (base : Nat) (c : Char) : Bool :=
  (c.isDigit || ('a' ≤ c && c ≤ 'f') || ('A' ≤ c && c ≤ 'F')) && digitValue c < base

def numberOf (base : Nat) (digits : List Char) : Nat :=
  digits.foldl (fun n c ↦ base * n + digitValue c) 0

def wholeDigits? (s : List Char) : Option (List Char) := do
  let digits ← ungroup Char.isDigit s
  if digits.length = 1 ∨ digits.head? ≠ some '0' then return digits else none

def readSign : List Char → Bool × List Char
  | '-' :: rest => (true, rest)
  | '+' :: rest => (false, rest)
  | rest => (false, rest)

def radixInteger? (base : Nat) (s : List Char) : Option Int :=
  (ungroup (isDigitOf base) s).map fun digits ↦ (numberOf base digits : Int)

def anyInteger? : List Char → Option Int
  | '0' :: 'x' :: digits => radixInteger? 16 digits
  | '0' :: 'o' :: digits => radixInteger? 8 digits
  | '0' :: 'b' :: digits => radixInteger? 2 digits
  | s =>
    let (negative, s) := readSign s
    (wholeDigits? s).map fun digits ↦
      if negative then -(numberOf 10 digits : Int) else numberOf 10 digits

def integer? (s : List Char) : Option Int := do
  let i ← anyInteger? s
  if -Int.pow 2 63 ≤ i ∧ i < Int.pow 2 63 then return i else none

/-- The number nearest to `n * 10 ^ e`. Sizes far out of range are not computed. -/
def nearest (n : Nat) (e : Int) : Binary64 :=
  let place : Int := (Nat.repr n).length + e
  if n = 0 ∨ place < -400 then ⟨0⟩
  else if 400 < place then .infinity
  else .ofRatio (n * Nat.pow 10 e.toNat) (Nat.pow 10 (-e).toNat)

def exponent? : List Char → Option Int
  | [] => some 0
  | c :: rest =>
    if c = 'e' ∨ c = 'E' then
      let (negative, rest) := readSign rest
      (ungroup Char.isDigit rest).map fun digits ↦
        if negative then -(numberOf 10 digits : Int) else numberOf 10 digits
    else none

def isGroupChar (c : Char) : Bool := c.isDigit || c == '_'

def size? (s : List Char) : Option Binary64 := do
  let whole ← wholeDigits? (s.takeWhile isGroupChar)
  match s.dropWhile isGroupChar with
  | [] => none
  | '.' :: rest =>
    let fraction ← ungroup Char.isDigit (rest.takeWhile isGroupChar)
    let e ← exponent? (rest.dropWhile isGroupChar)
    return nearest (numberOf 10 (whole ++ fraction)) (e - fraction.length)
  | rest => return nearest (numberOf 10 whole) (← exponent? rest)

/-- A floating point number. A number that is too large is refused, and a negative one of that
size is infinite. -/
def float? (s : List Char) : Option Binary64 :=
  let (negative, s) := readSign s
  let signed (x : Binary64) := if negative then x.neg else x
  match s with
  | ['i', 'n', 'f'] => some (signed .infinity)
  | ['n', 'a', 'n'] => some (signed .nan)
  | _ =>
    match size? s with
    | some x => if x.isInfinite && !negative then none else some (signed x)
    | none => none

def readDate (s : List Char) : Option (List Char) := do
  let (year, s) ← Instant.readDigits 4 s
  let s ← Instant.readChar '-' s
  let (month, s) ← Instant.readDigits 2 s
  let s ← Instant.readChar '-' s
  let (day, s) ← Instant.readDigits 2 s
  let _ ← Instant.dayNumber? year month day
  return s

def readTime (s : List Char) : Option (List Char) := do
  let (hour, s) ← Instant.readDigits 2 s
  let s ← Instant.readChar ':' s
  let (minute, s) ← Instant.readDigits 2 s
  let s ← Instant.readChar ':' s
  let (second, s) ← Instant.readDigits 2 s
  if 23 < hour ∨ 59 < minute ∨ 60 < second then none
  return (← Instant.readFraction s).2

def isZonedTime (s : List Char) : Bool :=
  match readTime s with
  | none => false
  | some [] => true
  | some rest => (Instant.readOffset rest).any fun p ↦ p.2.isEmpty

def isDate (s : List Char) : Bool := readDate s == some []

def isInstant (s : List Char) : Bool :=
  readTime s == some [] ||
    match readDate s with
    | none => false
    | some [] => true
    | some (c :: rest) => (c == 'T' || c == 't') && isZonedTime rest

def ofWord? (s : List Char) : Option Toml :=
  match s with
  | ['t', 'r', 'u', 'e'] => some (bool true)
  | ['f', 'a', 'l', 's', 'e'] => some (bool false)
  | _ =>
    if isInstant s then some (instant (String.ofList s))
    else (integer? s).map integer <|> (float? s).map float

/-- Reads a word. A date and a time may be two words with one space between them. -/
def readWord (s : List Char) : Option (Toml × List Char) :=
  let word := s.takeWhile isWordChar
  let rest := s.dropWhile isWordChar
  match isDate word, rest with
  | true, ' ' :: after =>
    let time := after.takeWhile isWordChar
    if isZonedTime time then
      some (instant (String.ofList (word ++ ' ' :: time)), after.dropWhile isWordChar)
    else some (instant (String.ofList word), rest)
  | _, _ => (ofWord? word).map (·, rest)

end QueryCatalog.Toml
