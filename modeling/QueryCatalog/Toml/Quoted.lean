import QueryCatalog.Json.Source
import QueryCatalog.Toml.Basic

namespace QueryCatalog.Toml

def hexNumber? (digits : List Char) : Option Nat :=
  digits.foldlM (fun n c ↦ (JsonSource.hexValue? c).map (16 * n + ·)) 0

def scalar? (digits : List Char) : Option Char := do
  let n ← hexNumber? digits
  if n.isValidChar then return Char.ofNat n else none

def simpleEscape? : Char → Option Char
  | '\"' => some '\"'
  | '\\' => some '\\'
  | 'b' => some (Char.ofNat 8)
  | 'f' => some (Char.ofNat 12)
  | 'n' => some '\n'
  | 'r' => some '\r'
  | 't' => some '\t'
  | _ => none

def readBasic : List Char → Option (List Char × List Char)
  | [] => none
  | '\"' :: rest => some ([], rest)
  | '\\' :: 'u' :: a :: b :: c :: d :: rest => do
    let x ← scalar? [a, b, c, d]
    let (text, rest') ← readBasic rest
    return (x :: text, rest')
  | '\\' :: 'U' :: a :: b :: c :: d :: e :: f :: g :: h :: rest => do
    let x ← scalar? [a, b, c, d, e, f, g, h]
    let (text, rest') ← readBasic rest
    return (x :: text, rest')
  | '\\' :: c :: rest => do
    let x ← simpleEscape? c
    let (text, rest') ← readBasic rest
    return (x :: text, rest')
  | c :: rest =>
    if c = '\\' ∨ !isTextChar c then none
    else do
      let (text, rest') ← readBasic rest
      return (c :: text, rest')

/-- Up to two quotes in front of the three that end a string belong to the string. -/
def readLastQuotes (quote : Char) : List Char → List Char × List Char
  | a :: b :: rest =>
    if a = quote ∧ b = quote then ([quote, quote], rest)
    else if a = quote then ([quote], b :: rest)
    else ([], a :: b :: rest)
  | [a] => if a = quote then ([quote], []) else ([], [a])
  | [] => ([], [])

def restIsBlank (s : List Char) : Bool := (readNewline (skipBlanks s)).isSome

/-- Reads text of several lines with escapes. A backslash at the end of a line takes away the line
break and all blanks and line breaks behind it; `trimming` says that this is going on. -/
def readBasicLines (trimming : Bool) : List Char → Option (List Char × List Char)
  | [] => none
  | '\"' :: '\"' :: '\"' :: rest => some (readLastQuotes '\"' rest)
  | '\r' :: '\n' :: rest =>
    if trimming then readBasicLines true rest
    else do
      let (text, rest') ← readBasicLines false rest
      return ('\n' :: text, rest')
  | '\n' :: rest =>
    if trimming then readBasicLines true rest
    else do
      let (text, rest') ← readBasicLines false rest
      return ('\n' :: text, rest')
  | '\\' :: 'u' :: a :: b :: c :: d :: rest => do
    let x ← scalar? [a, b, c, d]
    let (text, rest') ← readBasicLines false rest
    return (x :: text, rest')
  | '\\' :: 'U' :: a :: b :: c :: d :: e :: f :: g :: h :: rest => do
    let x ← scalar? [a, b, c, d, e, f, g, h]
    let (text, rest') ← readBasicLines false rest
    return (x :: text, rest')
  | '\\' :: c :: rest =>
    if restIsBlank (c :: rest) then readBasicLines true rest
    else do
      let x ← simpleEscape? c
      let (text, rest') ← readBasicLines false rest
      return (x :: text, rest')
  | c :: rest =>
    if trimming && isBlank c then readBasicLines true rest
    else if c = '\\' ∨ !isTextChar c then none
    else do
      let (text, rest') ← readBasicLines false rest
      return (c :: text, rest')

def readLiteral (s : List Char) : Option (List Char × List Char) :=
  match s.dropWhile fun c ↦ c != '\'' && isTextChar c with
  | '\'' :: rest => some (s.takeWhile fun c ↦ c != '\'' && isTextChar c, rest)
  | _ => none

def readLiteralLines : List Char → Option (List Char × List Char)
  | [] => none
  | '\'' :: '\'' :: '\'' :: rest => some (readLastQuotes '\'' rest)
  | '\r' :: '\n' :: rest => do
    let (text, rest') ← readLiteralLines rest
    return ('\n' :: text, rest')
  | c :: rest =>
    if c = '\n' ∨ isTextChar c then do
      let (text, rest') ← readLiteralLines rest
      return (c :: text, rest')
    else none

def skipFirstNewline (s : List Char) : List Char := (readNewline s).getD s

def readString : List Char → Option (List Char × List Char)
  | '\"' :: '\"' :: '\"' :: rest => readBasicLines false (skipFirstNewline rest)
  | '\'' :: '\'' :: '\'' :: rest => readLiteralLines (skipFirstNewline rest)
  | '\"' :: rest => readBasic rest
  | '\'' :: rest => readLiteral rest
  | _ => none

end QueryCatalog.Toml
