import QueryCatalog.Counting

namespace QueryCatalog

/-- A reference `:name.segment.segment` to a bound parameter and a property path on it. -/
structure Parameter where
  name : String
  path : List String
  deriving DecidableEq, Repr, Inhabited

namespace Parameter

def dottedPath (p : Parameter) : String := ".".intercalate p.path

def label (p : Parameter) : String :=
  if p.path.isEmpty then p.name else p.name ++ "." ++ p.dottedPath

end Parameter

/-- A named place for a fragment of statement text, with an optional default. -/
structure Slot where
  name : String
  default? : Option String
  source : String
  deriving DecidableEq, Repr, Inhabited

inductive Token
  | literal (text : String)
  | escaped (c : Char)
  | parameter (p : Parameter)
  | slot (v : Slot)
  deriving DecidableEq, Repr, Inhabited

namespace Token

def source : Token → String
  | .literal text => text
  | .escaped c => String.ofList ['\\', c]
  | .parameter p => ":" ++ p.name ++ String.join (p.path.map fun s ↦ "." ++ s)
  | .slot v => v.source

def isSlot : Token → Bool
  | .slot _ => true
  | _ => false

def parameter? : Token → Option Parameter
  | .parameter p => some p
  | _ => none

def slot? : Token → Option Slot
  | .slot v => some v
  | _ => none

end Token

structure Template where
  source : String
  tokens : List Token
  deriving DecidableEq, Repr, Inhabited

namespace Template

def toSource (t : Template) : String := String.join (t.tokens.map Token.source)

def hasSlots (t : Template) : Bool := t.tokens.any Token.isSlot

def parameters (t : Template) : List Parameter := t.tokens.filterMap Token.parameter?

def slots (t : Template) : List Slot := t.tokens.filterMap Token.slot?

end Template

end QueryCatalog

namespace QueryCatalog.Template

inductive FaultKind
  | unterminatedQuote (quote : Char)
  | unterminatedComment
  | missingName
  | emptySegment (name : String)
  | unbalancedOpen
  | unbalancedClose
  | nestedOpen
  | invalidName (name : String)
  | positionalMark
  deriving DecidableEq, Repr

namespace FaultKind

def message : FaultKind → String
  | unterminatedQuote quote => "unterminated quoted text starting with " ++ quote.toString
  | unterminatedComment => "unterminated block comment"
  | missingName => "expected parameter name after ':'"
  | emptySegment name => "empty property path segment in ':" ++ name ++ "'"
  | unbalancedOpen => "unbalanced '\x7b'"
  | unbalancedClose => "unbalanced '\x7d'"
  | nestedOpen => "nested '\x7b' inside template variable; use '\x7bname -> default\x7d'"
  | invalidName name => "invalid template variable name '" ++ name ++ "'"
  | positionalMark => "positional '?' is not allowed; bind a :name parameter instead"

end FaultKind

/-- A fault together with its distance, in bytes of UTF-8, from the start of the text read. -/
structure Fault where
  offset : Nat
  kind : FaultKind
  deriving DecidableEq, Repr

def Fault.shift (n : Nat) (f : Fault) : Fault := ⟨n + f.offset, f.kind⟩

def byteLength (s : List Char) : Nat := total (s.map Char.utf8Size)

end QueryCatalog.Template
