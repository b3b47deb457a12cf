namespace QueryCatalog

structure Numeral where
  negative : Bool
  whole : List Char
  /-- The digits behind the point; none if there is no point. -/
  fraction : List Char
  exponent? : Option (Bool × List Char)
  deriving DecidableEq, Repr

/-- A piece of a string: a character, or a code unit of UTF-16 written as an escape. -/
inductive StringPiece
  | char (c : Char)
  | unit (n : Nat)
  deriving DecidableEq, Repr

inductive JsonSource
  | null
  | bool (b : Bool)
  | number (n : Numeral)
  | string (s : List StringPiece)
  | array (items : List JsonSource)
  | object (members : List (List StringPiece × JsonSource))
  deriving Repr, Inhabited

namespace JsonSource

def isBlank (c : Char) : Bool := c == ' ' || c == '\n' || c == '\t' || c == '\r'

def skipBlanks (s : List Char) : List Char := s.dropWhile isBlank

def hexValue? (c : Char) : Option Nat :=
  if c.isDigit then some (c.toNat - 48)
  else if 'a' ≤ c ∧ c ≤ 'f' then some (c.toNat - 87)
  else if 'A' ≤ c ∧ c ≤ 'F' then some (c.toNat - 55)
  else none

def simpleEscape? : Char → Option Char
  | '\"' => some '\"'
  | '\\' => some '\\'
  | '/' => some '/'
  | 'b' => some (Char.ofNat 8)
  | 'f' => some (Char.ofNat 12)
  | 'n' => some '\n'
  | 'r' => some '\r'
  | 't' => some '\t'
  | _ => none

def readString : List Char → Option (List StringPiece × List Char)
  | [] => none
  | '\"' :: rest => some ([], rest)
  | '\\' :: 'u' :: a :: b :: c :: d :: rest => do
    let n := (← hexValue? a) * 4096 + (← hexValue? b) * 256 + (← hexValue? c) * 16 + (← hexValue? d)
    let (pieces, rest') ← readString rest
    return (.unit n :: pieces, rest')
  | '\\' :: c :: rest => do
    let c' ← simpleEscape? c
    let (pieces, rest') ← readString rest
    return (.char c' :: pieces, rest')
  | c :: rest =>
    if c = '\\' ∨ c.toNat < 32 then none
    else do
      let (pieces, rest') ← readString rest
      return (.char c :: pieces, rest')

def takeDigits (s : List Char) : List Char × List Char :=
  (s.takeWhile Char.isDigit, s.dropWhile Char.isDigit)

def readFraction : List Char → Option (List Char × List Char)
  | '.' :: rest =>
    let (digits, rest') := takeDigits rest
    if digits.isEmpty then none else some (digits, rest')
  | rest => some ([], rest)

def readExponent : List Char → Option (Option (Bool × List Char) × List Char)
  | c :: rest =>
    if c = 'e' ∨ c = 'E' then
      let (negative, rest) := match rest with
        | '-' :: r => (true, r)
        | '+' :: r => (false, r)
        | r => (false, r)
      let (digits, rest') := takeDigits rest
      if digits.isEmpty then none else some (some (negative, digits), rest')
    else some (none, c :: rest)
  | [] => some (none, [])

def readNumeral (negative : Bool) (s : List Char) : Option (Numeral × List Char) := do
  let (whole, rest) := takeDigits s
  if whole.isEmpty || (whole.head? == some '0' && whole.length != 1) then none
  let (fraction, rest) ← readFraction rest
  let (exponent?, rest) ← readExponent rest
  return (⟨negative, whole, fraction, exponent?⟩, rest)

mutual

/-- Reads one value. Every call inside reads at least one character, so that a bound of the length
of the text is enough. -/
def readValue (bound : Nat) (s : List Char) : Option (JsonSource × List Char) :=
  match bound with
  | 0 => none
  | bound + 1 =>
    match skipBlanks s with
    | 'n' :: 'u' :: 'l' :: 'l' :: rest => some (null, rest)
    | 't' :: 'r' :: 'u' :: 'e' :: rest => some (bool true, rest)
    | 'f' :: 'a' :: 'l' :: 's' :: 'e' :: rest => some (bool false, rest)
    | '\"' :: rest => (readString rest).map fun p ↦ (string p.1, p.2)
    | '[' :: rest =>
      match skipBlanks rest with
      | ']' :: rest' => some (array [], rest')
      | rest' => (readItems bound rest').map fun p ↦ (array p.1, p.2)
    | '{' :: rest =>
      match skipBlanks rest with
      | '}' :: rest' => some (object [], rest')
      | rest' => (readMembers bound rest').map fun p ↦ (object p.1, p.2)
    | '-' :: rest => (readNumeral true rest).map fun p ↦ (number p.1, p.2)
    | rest => (readNumeral false rest).map fun p ↦ (number p.1, p.2)

def readItems (bound : Nat) (s : List Char) : Option (List JsonSource × List Char) :=
  match bound with
  | 0 => none
  | bound + 1 => do
    let (item, rest) ← readValue bound s
    match skipBlanks rest with
    | ',' :: rest' =>
      let (items, rest'') ← readItems bound rest'
      return (item :: items, rest'')
    | ']' :: rest' => return ([item], rest')
    | _ => none

def readMembers (bound : Nat) (s : List Char) :
    Option (List (List StringPiece × JsonSource) × List Char) :=
  match bound with
  | 0 => none
  | bound + 1 =>
    match skipBlanks s with
    | '\"' :: rest => do
      let (name, rest) ← readString rest
      match skipBlanks rest with
      | ':' :: rest => do
        let (value, rest) ← readValue bound rest
        match skipBlanks rest with
        | ',' :: rest' =>
          let (members, rest'') ← readMembers bound rest'
          return ((name, value) :: members, rest'')
        | '}' :: rest' => return ([(name, value)], rest')
        | _ => none
      | _ => none
    | _ => none

end

def parse? (text : String) : Option JsonSource := do
  let (value, rest) ← readValue (2 * text.length + 2) text.toList
  if (skipBlanks rest).isEmpty then return value else none

end JsonSource

end QueryCatalog
