import QueryCatalog.Pattern.CharClass
import QueryCatalog.Pattern.Flags
import QueryCatalog.Pattern.Property
import QueryCatalog.Pattern.Regex

namespace QueryCatalog.Pattern

structure Literal where
  char : Char
  isByte : Bool

inductive Escape
  | char (l : Literal)
  | cls (c : CharClass)
  | anchor (a : Anchor)

/-- The character that a literal stands for. Where patterns are not about characters of all kinds,
a byte beyond ASCII would be a part of a character, which a text never holds alone. -/
def Literal.char? (f : Flags) (l : Literal) : Option Char :=
  if !f.unicode && l.isByte && 127 < l.char.toNat then none else some l.char

def foldClass (f : Flags) (c : CharClass) : CharClass :=
  if f.ignoreCase then (if f.unicode then c.fold else c.foldAscii) else c

/-- The complement of a set, which must stay in ASCII unless all characters are meant. -/
def negateClass? (f : Flags) (negated : Bool) (c : CharClass) : Option CharClass :=
  if !negated then some c else if f.unicode then some (.complement c) else none

def hexValue? (c : Char) : Option Nat :=
  if c.isDigit then some (c.toNat - 48)
  else if 'a' ≤ c ∧ c ≤ 'f' then some (c.toNat - 87)
  else if 'A' ≤ c ∧ c ≤ 'F' then some (c.toNat - 55)
  else none

def hexChar? (digits : List Char) : Option Char := do
  if digits.isEmpty ∨ 8 < (digits.dropWhile (· == '0')).length then none
  let n ← digits.foldlM (fun n c ↦ (hexValue? c).map (16 * n + ·)) 0
  if n < 0xD800 ∨ (0xE000 ≤ n ∧ n < 0x110000) then return Char.ofNat n else none

def takeChars? (f : Flags) : Nat → List Char → Option (List Char × List Char)
  | 0, s => some ([], s)
  | _ + 1, [] => none
  | n + 1, c :: rest => (takeChars? f n (skipSpace f rest)).map fun p ↦ (c :: p.1, p.2)

def readBraced? (f : Flags) (s : List Char) : Option (List Char × List Char) :=
  match readRun f (· != '}') (skipSpace f s) with
  | (text, '}' :: rest) => some (text, rest)
  | _ => none

/-- Reads a number behind `\x`, `\u` or `\U`: a fixed number of digits, or any in braces. Two digits
may stand for a byte. -/
def readHex (f : Flags) (width : Nat) (s : List Char) : Option (Escape × List Char) := do
  match skipSpace f s with
  | '{' :: rest =>
    let (digits, rest) ← readBraced? f rest
    return (.char ⟨← hexChar? digits, false⟩, rest)
  | s =>
    let (digits, rest) ← takeChars? f width s
    return (.char ⟨← hexChar? digits, width == 2⟩, rest)

def namedClass? (f : Flags) (negated : Bool) (s : CharSet) : Option CharClass :=
  negateClass? f negated (if f.unicode then .ofSet s else .inter .ascii (.ofSet s))

def boundaryNamed? (ascii : Bool) (name : List Char) : Option Anchor :=
  match String.ofList name with
  | "start" => some (.wordStart ascii)
  | "end" => some (.wordEnd ascii)
  | "start-half" => some (.wordStartHalf ascii)
  | "end-half" => some (.wordEndHalf ascii)
  | _ => none

def isBoundaryChar (c : Char) : Bool := c.isAlpha || c == '-'

/-- Reads what is in braces behind `\b`; braces around anything but a name belong to a
repetition. -/
def readBoundary (f : Flags) (s : List Char) : Option (Escape × List Char) :=
  let plain : Escape × List Char := (.anchor (.wordBoundary (!f.unicode)), s)
  match s with
  | '{' :: more =>
    match skipSpace f more with
    | [] => none
    | c :: more =>
      if isBoundaryChar c then
        match readRun f isBoundaryChar (c :: more) with
        | (name, '}' :: rest) => (boundaryNamed? (!f.unicode) name).map (.anchor ·, rest)
        | _ => none
      else some plain
  | _ => some plain

def readProperty (f : Flags) (negated : Bool) (s : List Char) : Option (Escape × List Char) := do
  if !f.unicode then none
  let (text, rest) ← match skipSpace f s with
    | '{' :: rest => readBraced? f rest
    | c :: rest => some ([c], rest)
    | [] => none
  return (.cls (← negateClass? f negated (foldClass f (.ofSet (← property? text)))), rest)

def isEscapable (c : Char) : Bool := c.toNat < 128 && !c.isAlphanum && c != '<' && c != '>'

def namedChar? : Char → Option Char
  | 'a' => some (Char.ofNat 7)
  | 'f' => some (Char.ofNat 12)
  | 't' => some '\t'
  | 'n' => some '\n'
  | 'r' => some '\r'
  | 'v' => some (Char.ofNat 11)
  | c => if isEscapable c then some c else none

def readEscape (f : Flags) : List Char → Option (Escape × List Char)
  | [] => none
  | c :: rest =>
    match c with
    | 'x' => readHex f 2 rest
    | 'u' => readHex f 4 rest
    | 'U' => readHex f 8 rest
    | 'd' => (namedClass? f false .digit).map (.cls ·, rest)
    | 's' => (namedClass? f false .space).map (.cls ·, rest)
    | 'w' => (namedClass? f false .word).map (.cls ·, rest)
    | 'D' => (namedClass? f true .digit).map (.cls ·, rest)
    | 'S' => (namedClass? f true .space).map (.cls ·, rest)
    | 'W' => (namedClass? f true .word).map (.cls ·, rest)
    | 'p' => readProperty f false rest
    | 'P' => readProperty f true rest
    | 'A' => some (.anchor .textStart, rest)
    | 'z' => some (.anchor .textEnd, rest)
    | 'b' => readBoundary f rest
    | 'B' => some (.anchor (.notWordBoundary (!f.unicode)), rest)
    | '<' => some (.anchor (.wordStart (!f.unicode)), rest)
    | '>' => some (.anchor (.wordEnd (!f.unicode)), rest)
    | c => (namedChar? c).map fun d ↦ (.char ⟨d, false⟩, rest)

end QueryCatalog.Pattern
