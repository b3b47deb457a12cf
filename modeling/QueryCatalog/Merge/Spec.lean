namespace QueryCatalog.Merge

structure NestedSpec where
  property : String
  /-- The name of the columns, or the part of their names before a dot. -/
  stem : String
  /-- The fields that tell elements apart; without any, all fields do. -/
  identity : List String := []
  /-- Whether an element is the value of the first column instead of an object. -/
  scalar : Bool := false
  deriving DecidableEq, Repr

structure Spec where
  identity : List String := []
  nested : List NestedSpec := []
  deriving DecidableEq, Repr, Inhabited

structure ColumnMeta where
  name : String
  isIdentity : Bool

namespace Spec

def withMetadata (spec : Spec) (columns : List ColumnMeta) : Spec :=
  if spec.identity.isEmpty then
    { spec with identity := (columns.filter ColumnMeta.isIdentity).map ColumnMeta.name }
  else spec

end Spec

def unquote (column : String) : String :=
  let left := column.toList.dropWhile (· == '\"')
  String.ofList (left.reverse.dropWhile (· == '\"')).reverse

def afterStem? : List Char → List Char → Option (List Char)
  | [], '.' :: field => some field
  | [], _ => none
  | _ :: _, [] => none
  | c :: stem, d :: column => if c = d then afterStem? stem column else none

/-- The field that a column feeds: a column named by the stem feeds the field of its name, and one
named by the stem, a dot and a field feeds that field. -/
def NestedSpec.field? (spec : NestedSpec) (column : String) : Option String :=
  if column = spec.stem then some column
  else
    match afterStem? spec.stem.toList column.toList with
    | some [] => none
    | some field => some (String.ofList field)
    | none => none

end QueryCatalog.Merge
