import QueryCatalog.Binary64.Basic

namespace QueryCatalog

inductive Toml
  | string (s : String)
  | integer (i : Int)
  | float (x : Binary64)
  | bool (b : Bool)
  | instant (text : String)
  | array (items : List Toml)
  | table (members : List (String × Toml))
  deriving Repr, Inhabited

namespace Toml

def isBlank (c : Char) : Bool := c == ' ' || c == '\t'

def skipBlanks (s : List Char) : List Char := s.dropWhile isBlank

/-- The characters of comments and literal strings: no control characters but the tabulator. -/
def isTextChar (c : Char) : Bool := c == '\t' || (32 ≤ c.toNat && c.toNat != 127)

def readNewline : List Char → Option (List Char)
  | '\n' :: rest => some rest
  | '\r' :: '\n' :: rest => some rest
  | _ => none

def readLineEnd (s : List Char) : Option (List Char) :=
  let rest := match skipBlanks s with
    | '#' :: rest => rest.dropWhile isTextChar
    | rest => rest
  if rest.isEmpty then some [] else readNewline rest

/-- Skips blanks, line breaks and comments. A comment ends with its line. -/
def skipFiller (inComment : Bool) : List Char → List Char
  | [] => []
  | '\n' :: rest => skipFiller false rest
  | '\r' :: '\n' :: rest => skipFiller false rest
  | c :: rest =>
    if inComment then if isTextChar c then skipFiller true rest else c :: rest
    else if isBlank c then skipFiller false rest
    else if c = '#' then skipFiller true rest
    else c :: rest

end Toml

end QueryCatalog
