import QueryCatalog.Toml.Quoted
import QueryCatalog.Toml.Tree
import QueryCatalog.Toml.Word

namespace QueryCatalog.Toml

def isBareKeyChar (c : Char) : Bool := c.isAlphanum || c == '_' || c == '-'

def readKey : List Char → Option (String × List Char)
  | '\"' :: rest => (readBasic rest).map fun p ↦ (String.ofList p.1, p.2)
  | '\'' :: rest => (readLiteral rest).map fun p ↦ (String.ofList p.1, p.2)
  | s =>
    let key := s.takeWhile isBareKeyChar
    if key.isEmpty then none else some (String.ofList key, s.dropWhile isBareKeyChar)

abbrev KeyPath := List String × String

/-- Reads a key of at most `bound` parts with dots between them, and blanks around each part. -/
def readPath (bound : Nat) (s : List Char) : Option (KeyPath × List Char) :=
  match bound with
  | 0 => none
  | bound + 1 => do
    let (key, rest) ← readKey (skipBlanks s)
    match skipBlanks rest with
    | '.' :: rest =>
      let ((path, last), rest) ← readPath bound rest
      return ((key :: path, last), rest)
    | rest => return (([], key), rest)

def pathLimit : Nat := 79

def depthLimit : Nat := 79

/-- Reads the items of an array up to the closing bracket; a comma may stand behind the last. Each
item takes at least one character, so that a bound of the length of the text is enough. -/
def readItems (read : List Char → Option (Toml × List Char)) :
    Nat → List Char → Option (List Toml × List Char)
  | 0, _ => none
  | bound + 1, s =>
    match skipFiller false s with
    | ']' :: rest => some ([], rest)
    | s => do
      let (item, rest) ← read s
      match skipFiller false rest with
      | ']' :: rest => return ([item], rest)
      | ',' :: rest =>
        let (items, rest) ← readItems read bound rest
        return (item :: items, rest)
      | _ => none

def readPair (read : List Char → Option (Toml × List Char)) (s : List Char) :
    Option ((KeyPath × Toml) × List Char) := do
  let (path, rest) ← readPath pathLimit s
  match rest with
  | '=' :: rest =>
    let (v, rest) ← read (skipBlanks rest)
    return ((path, v), rest)
  | _ => none

def readPairs (read : List Char → Option (Toml × List Char)) :
    Nat → List Char → Option (List (KeyPath × Toml) × List Char)
  | 0, _ => none
  | bound + 1, s => do
    let (pair, rest) ← readPair read s
    match skipBlanks rest with
    | '}' :: rest => return ([pair], rest)
    | ',' :: rest =>
      let (pairs, rest) ← readPairs read bound rest
      return (pair :: pairs, rest)
    | _ => none

def tableOfPairs (pairs : List (KeyPath × Toml)) : Option Toml :=
  (pairs.foldlM (fun es p ↦ Entries.assign p.1.1 p.1.2 p.2 es) []).map fun es ↦
    table (entriesToToml es)

def readValue (depth : Nat) (s : List Char) : Option (Toml × List Char) :=
  match s, depth with
  | '\"' :: _, _ => (readString s).map fun p ↦ (string (String.ofList p.1), p.2)
  | '\'' :: _, _ => (readString s).map fun p ↦ (string (String.ofList p.1), p.2)
  | '[' :: _, 0 => none
  | '{' :: _, 0 => none
  | '[' :: rest, depth + 1 =>
    (readItems (readValue depth) (rest.length + 1) rest).map fun p ↦ (array p.1, p.2)
  | '{' :: rest, depth + 1 =>
    match skipBlanks rest with
    | '}' :: rest => some (table [], rest)
    | rest => do
      let (pairs, rest) ← readPairs (readValue depth) (rest.length + 1) rest
      return (← tableOfPairs pairs, rest)
  | _, _ => readWord s

inductive Line
  | pair (path : KeyPath) (v : Toml)
  | table (path : KeyPath)
  | item (path : KeyPath)

def readHeaderEnd (closing : List Char) (s : List Char) : Option (List Char) :=
  if closing.isPrefixOf s then readLineEnd (s.drop closing.length) else none

def readLine : List Char → Option (Line × List Char)
  | '[' :: '[' :: rest => do
    let (path, rest) ← readPath pathLimit rest
    return (.item path, ← readHeaderEnd [']', ']'] rest)
  | '[' :: rest => do
    let (path, rest) ← readPath pathLimit rest
    return (.table path, ← readHeaderEnd [']'] rest)
  | s => do
    let ((path, v), rest) ← readPair (readValue depthLimit) s
    return (.pair path v, ← readLineEnd rest)

def readLines : Nat → List Char → Option (List Line)
  | 0, _ => none
  | bound + 1, s =>
    match skipBlanks s with
    | [] => some []
    | '\n' :: rest => readLines bound rest
    | '\r' :: rest => do readLines bound (← readNewline ('\r' :: rest))
    | '#' :: rest => do readLines bound (← readLineEnd ('#' :: rest))
    | s => do
      let (line, rest) ← readLine s
      return line :: (← readLines bound rest)

structure Draft where
  root : Entries := []
  current : List String := []

namespace Draft

def inCurrent (d : Draft) (change : Entries → Option Entries) : Option Draft :=
  (Entries.update .onTheWay (fun _ ↦ true) (fun _ ↦ change) d.current .header d.root).map
    fun root ↦ { d with root := root }

def addLine (d : Draft) : Line → Option Draft
  | .pair path v => d.inCurrent (Entries.assign path.1 path.2 v)
  | .table path => (Entries.openTable path.1 path.2 d.root).map (⟨·, path.1 ++ [path.2]⟩)
  | .item path => (Entries.openItem path.1 path.2 d.root).map (⟨·, path.1 ++ [path.2]⟩)

end Draft

def skipMark : List Char → List Char
  | c :: rest => if c.toNat = 0xFEFF then rest else c :: rest
  | [] => []

def parse? (text : String) : Option Toml := do
  let s := skipMark text.toList
  let lines ← readLines (s.length + 1) s
  let draft ← lines.foldlM Draft.addLine {}
  return table (entriesToToml draft.root)

end QueryCatalog.Toml
