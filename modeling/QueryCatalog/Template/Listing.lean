import QueryCatalog.Binding.Plan
import QueryCatalog.Text.Visible
import QueryCatalog.Value.Plain

namespace QueryCatalog

namespace Template

def numberColumn (n : Nat) : String :=
  let digits := Nat.repr n
  String.ofList (List.replicate (3 - digits.length) ' ') ++ digits

def describe : Token → String
  | .literal text => "literal  " ++ Text.quoted text
  | .escaped c => "escaped  " ++ Text.quotedChar c
  | .parameter p =>
    "param    " ++ p.name ++ (if p.path.isEmpty then "" else " -> " ++ p.dottedPath)
  | .slot s =>
    "define   " ++ s.name ++ match s.default? with
      | some text => " (default " ++ Text.quoted text ++ ")"
      | none => ""

/-- The tokens of a template, one on a line, each with its number and its kind. -/
def listing (t : Template) : String :=
  String.join (t.tokens.zipIdx.map fun e ↦ numberColumn e.2 ++ " " ++ describe e.1 ++ "\n")

def summary (t : Template) : Json :=
  .object
    [("defines", .array (t.slots.map fun s ↦ .string s.name)),
      ("params", .array (t.parameters.map fun p ↦ .string p.label)),
      ("tokens", .number (.integer t.tokens.length))]

end Template

def BoundValue.line (n : Nat) (b : BoundValue) : String :=
  let number := Nat.repr (n + 1)
  let place := b.index?.elim "" fun i ↦ s!"[{i}]"
  "  $" ++ number ++ " = " ++ b.value.display ++ " (" ++ b.label ++ place ++ ")\n"

namespace Plan

def listing (p : Plan) : String :=
  p.sql ++ "\n" ++ String.join (p.bound.zipIdx.map fun e ↦ e.1.line e.2)

def summary (p : Plan) : Json :=
  .object [("sql", .string p.sql), ("values", .array (p.values.map Value.toJson))]

end Plan

end QueryCatalog
