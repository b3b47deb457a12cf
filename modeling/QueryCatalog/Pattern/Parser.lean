import QueryCatalog.Pattern.Brackets
import QueryCatalog.Pattern.CharProperty
import QueryCatalog.Pattern.Footprint

namespace QueryCatalog.Pattern

/-- The letters that are new in the version 17.0. -/
def newLetterRuns : List CharRun :=
  [⟨0x88F, 0x88F, 1⟩, ⟨0xC5C, 0xC5C, 1⟩, ⟨0xCDC, 0xCDC, 1⟩, ⟨0xA7CE, 0xA7CF, 1⟩,
   ⟨0xA7D2, 0xA7D4, 2⟩, ⟨0xA7F1, 0xA7F1, 1⟩, ⟨0x10940, 0x10959, 1⟩, ⟨0x10EC5, 0x10EC7, 1⟩,
   ⟨0x10EFA, 0x10EFB, 1⟩, ⟨0x11B60, 0x11B67, 1⟩, ⟨0x11DB0, 0x11DDB, 1⟩, ⟨0x16EA0, 0x16EB8, 1⟩,
   ⟨0x16EBB, 0x16ED3, 1⟩, ⟨0x16FF2, 0x16FF6, 1⟩, ⟨0x187F8, 0x187FF, 1⟩, ⟨0x18D09, 0x18D1E, 1⟩,
   ⟨0x18D80, 0x18DF2, 1⟩, ⟨0x1E6C0, 0x1E6DE, 1⟩, ⟨0x1E6E0, 0x1E6F5, 1⟩, ⟨0x1E6FE, 0x1E6FF, 1⟩,
   ⟨0x2B73A, 0x2B73F, 1⟩, ⟨0x2CEA2, 0x2CEAD, 1⟩, ⟨0x323B0, 0x33479, 1⟩]

def newDigitRuns : List CharRun := [⟨0x11DE0, 0x11DE9, 1⟩]

def isNameStart (c : Char) : Bool :=
  c == '_' || CharSet.alphabetic.contains c.toNat || (CharSet.runs newLetterRuns).contains c.toNat

def isNameChar (c : Char) : Bool :=
  isNameStart c || c == '.' || c == '[' || c == ']' ||
    (CharSet.ofCategories Category.numbers).contains c.toNat ||
    (CharSet.runs newDigitRuns).contains c.toNat

def readGroupName (s : List Char) : Option (String × List Char) :=
  let name := s.takeWhile (· != '>')
  match name, s.dropWhile (· != '>') with
  | c :: cs, _ :: rest =>
    if isNameStart c && cs.all isNameChar then some (String.ofList name, rest) else none
  | _, _ => none

def readCount (f : Flags) (s : List Char) : Option (Nat × List Char) :=
  let (digits, rest) := readRun f Char.isDigit (s.dropWhile Text.isBlank)
  let n := digits.foldl (fun n c ↦ 10 * n + (c.toNat - 48)) 0
  if digits.isEmpty ∨ Nat.pow 2 32 ≤ n then none
  else some (n, (readRun f Text.isBlank rest).2)

def readBounds (f : Flags) (s : List Char) : Option ((Nat × Option Nat) × List Char) := do
  let (least, rest) ← readCount f (skipSpace f s)
  match rest with
  | '}' :: rest => return ((least, some least), rest)
  | ',' :: rest =>
    match skipSpace f rest with
    | '}' :: rest => return ((least, none), rest)
    | rest => do
      let (most, rest) ← readCount f rest
      match rest with
      | '}' :: rest => if least ≤ most then return ((least, some most), rest) else none
      | _ => none
  | _ => none

/-- Leaves out the sign that makes a repetition as short as possible; it changes no answer. -/
def skipLazy : List Char → List Char
  | '?' :: rest => rest
  | s => s

structure Part where
  /-- Flags have no expression, and cannot be repeated. -/
  regex? : Option Regex
  depth : Nat

namespace Part

def atom (r : Regex) : Part := ⟨some r, 0⟩

def flags : Part := ⟨none, 0⟩

def levels (depths : List Nat) : Nat :=
  match depths with
  | [] => 0
  | [n] => n
  | _ => depths.foldl max 0 + 1

def sequence (parts : List Part) : Part :=
  let regexes := (parts.filterMap regex?).filter (· != .empty)
  ⟨some (regexes.foldr (fun r s ↦ if s = .empty then r else .seq r s) .empty),
    levels (parts.map depth)⟩

def choice (branches : List Part) (last : Part) : Part :=
  ⟨some (branches.foldr (fun b r ↦ .alt (b.regex?.getD .empty) r) (last.regex?.getD .empty)),
    levels (branches.map depth ++ [last.depth])⟩

def repeatLast? (parts : List Part) (least : Nat) (most? : Option Nat) : Option (List Part) :=
  match parts.reverse with
  | ⟨some r, depth⟩ :: rest =>
    some ((⟨some (r.times least most?), depth + 1⟩ :: rest).reverse)
  | _ => none

end Part

def literal (f : Flags) (c : Char) : Regex := .chars (foldClass f (.single c))

/-- What a dot stands for. Unless all characters are meant it would stand for parts of
characters. -/
def dot? (f : Flags) : Option Regex :=
  if !f.unicode then none
  else if f.dotMatchesNewline then some (.chars .all)
  else if f.carriageReturns then
    some (.chars (.complement (.union (.single '\n') (.single '\r'))))
  else some (.chars (.complement (.single '\n')))

def startAnchor (f : Flags) : Anchor :=
  if f.multiLine then .lineStart f.carriageReturns else .textStart

def endAnchor (f : Flags) : Anchor :=
  if f.multiLine then .lineEnd f.carriageReturns else .textEnd

def Escape.regex? (f : Flags) : Escape → Option Regex
  | char l => (l.char? f).map (literal f)
  | cls c => some (.chars c)
  | anchor a => some (.anchor a)

structure Reading where
  part : Part
  rest : List Char
  names : List String

mutual

def readBranches (bound : Nat) (f : Flags) (names : List String) (branches parts : List Part)
    (s : List Char) : Option Reading :=
  match bound with
  | 0 => none
  | bound + 1 =>
    match skipSpace f s with
    | [] => some ⟨.choice branches (.sequence parts), [], names⟩
    | ')' :: rest => some ⟨.choice branches (.sequence parts), ')' :: rest, names⟩
    | '|' :: rest => readBranches bound f names (branches ++ [.sequence parts]) [] rest
    | '(' :: rest => readGroup bound f names branches parts (skipSpace f rest)
    | '[' :: rest =>
      match readClass bound f rest with
      | some (c, rest) =>
        readBranches bound f names branches (parts ++ [⟨some (.chars c.set), c.depth⟩]) rest
      | none => none
    | '?' :: rest => readRepeated bound f names branches (Part.repeatLast? parts 0 (some 1)) rest
    | '*' :: rest => readRepeated bound f names branches (Part.repeatLast? parts 0 none) rest
    | '+' :: rest => readRepeated bound f names branches (Part.repeatLast? parts 1 none) rest
    | '{' :: rest =>
      match readBounds f rest with
      | some ((least, most?), rest) =>
        readRepeated bound f names branches (Part.repeatLast? parts least most?) (skipSpace f rest)
      | none => none
    | '\\' :: rest =>
      match readEscape f rest with
      | some (e, rest) => readAtom bound f names branches parts (e.regex? f) rest
      | none => none
    | '^' :: rest => readAtom bound f names branches parts (some (.anchor (startAnchor f))) rest
    | '$' :: rest => readAtom bound f names branches parts (some (.anchor (endAnchor f))) rest
    | '.' :: rest => readAtom bound f names branches parts (dot? f) rest
    | c :: rest => readAtom bound f names branches parts (some (literal f c)) rest

def readAtom (bound : Nat) (f : Flags) (names : List String) (branches parts : List Part)
    (regex? : Option Regex) (s : List Char) : Option Reading :=
  match bound, regex? with
  | bound + 1, some r => readBranches bound f names branches (parts ++ [.atom r]) s
  | _, _ => none

def readRepeated (bound : Nat) (f : Flags) (names : List String) (branches : List Part)
    (parts? : Option (List Part)) (s : List Char) : Option Reading :=
  match bound, parts? with
  | bound + 1, some parts => readBranches bound f names branches parts (skipLazy s)
  | _, _ => none

def readGroup (bound : Nat) (f : Flags) (names : List String) (branches parts : List Part)
    (s : List Char) : Option Reading :=
  match bound with
  | 0 => none
  | bound + 1 =>
    match s with
    | '?' :: '=' :: _ => none
    | '?' :: '!' :: _ => none
    | '?' :: '<' :: '=' :: _ => none
    | '?' :: '<' :: '!' :: _ => none
    | '?' :: 'P' :: '<' :: rest => readNamed bound f names branches parts rest
    | '?' :: '<' :: rest => readNamed bound f names branches parts rest
    | '?' :: rest =>
      match readFlags f [] rest with
      | some (g, ':' :: rest') => readInner bound id g f names branches parts rest'
      | some (g, ')' :: rest') =>
        if rest.head? = some ')' then none
        else readBranches bound g names branches (parts ++ [.flags]) rest'
      | _ => none
    | rest => readInner bound .group f f names branches parts rest

/-- Reads the content of a group with the flags `g` up to its end, which makes it an expression of
its own, and goes on with the flags `f`. -/
def readInner (bound : Nat) (close : Regex → Regex) (g f : Flags) (names : List String)
    (branches parts : List Part) (s : List Char) : Option Reading :=
  match bound with
  | 0 => none
  | bound + 1 =>
    match readBranches bound g names [] [] s with
    | some ⟨⟨regex?, depth⟩, ')' :: rest, names⟩ =>
      readBranches bound f names branches (parts ++ [⟨regex?.map close, depth + 1⟩]) rest
    | _ => none

def readNamed (bound : Nat) (f : Flags) (names : List String) (branches parts : List Part)
    (s : List Char) : Option Reading :=
  match bound with
  | 0 => none
  | bound + 1 =>
    match readGroupName s with
    | some (name, rest) =>
      if names.contains name then none
      else readInner bound .group f f (name :: names) branches parts rest
    | none => none

end

def depthLimit : Nat := 250

def parse? (text : String) : Option Regex :=
  let s := text.toList
  match readBranches (4 * s.length + 4) {} [] [] [] s with
  | some ⟨⟨some r, depth⟩, [], _⟩ => if depth ≤ depthLimit && r.fits then some r else none
  | _ => none

end QueryCatalog.Pattern
