import QueryCatalog.Error
import QueryCatalog.Merge.Spec

namespace QueryCatalog.Merge

/-- The columns of one collection: their positions and the fields they feed. -/
structure NestedLayout where
  property : String
  scalar : Bool
  columns : List (Nat × String)
  identity : List Nat
  deriving DecidableEq, Repr

structure Layout where
  header : List String
  identity : List Nat
  parent : List Nat
  nested : List NestedLayout
  deriving DecidableEq, Repr

abbrev Column := Nat × String

def claimed (spec : NestedSpec) (free : List Column) : List (Nat × String) :=
  free.filterMap fun c ↦ (spec.field? c.2).map (c.1, ·)

def unclaimed (spec : NestedSpec) (free : List Column) : List Column :=
  free.filter fun c ↦ (spec.field? c.2).isNone

def nestedIdentity (spec : NestedSpec) (columns : List (Nat × String)) : Result (List Nat) :=
  if spec.identity.isEmpty then .ok (columns.map Prod.fst)
  else
    spec.identity.mapM fun field ↦
      match columns.find? fun c ↦ c.2 == field with
      | some c => .ok c.1
      | none => .error (.config (.nestedIdentity spec.stem field))

def nestedLayout (spec : NestedSpec) (columns : List (Nat × String)) : Result NestedLayout :=
  (nestedIdentity spec columns).map fun identity ↦
    ⟨spec.property, spec.scalar, columns, identity⟩

/-- Gives the free columns to the collections in turn; returns their layouts and the columns that
stay with the entity. -/
def divide : List NestedSpec → List Column → Result (List NestedLayout × List Column)
  | [], free => .ok ([], free)
  | spec :: specs, free => do
    let layout ← nestedLayout spec (claimed spec free)
    let (layouts, rest) ← divide specs (unclaimed spec free)
    return (layout :: layouts, rest)

def eqIgnoringCase (a b : String) : Bool := a.toList.map Char.toLower == b.toList.map Char.toLower

/-- The positions that tell entities apart: those of the named columns, else the first column of
the entity that is called `id`, else all columns of the entity. -/
def entityIdentity (spec : Spec) (names : List String) (parent : List Column) :
    Result (List Nat) :=
  if spec.identity.isEmpty then
    match parent.find? fun c ↦ eqIgnoringCase c.2 "id" with
    | some c => .ok [c.1]
    | none => .ok (parent.map Prod.fst)
  else
    spec.identity.mapM fun column ↦
      match names.findIdx? (· == column) with
      | some i => .ok i
      | none => .error (.config (.identityColumn column))

namespace Layout

def build (header : List String) (spec : Spec) : Result Layout := do
  let names := header.map unquote
  let columns : List Column := names.zipIdx.map fun c ↦ (c.2, c.1)
  let (nested, parent) ← divide spec.nested columns
  let identity ← entityIdentity spec names parent
  return ⟨header, identity, parent.map Prod.fst, nested⟩

end Layout

end QueryCatalog.Merge
