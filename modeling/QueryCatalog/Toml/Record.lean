import QueryCatalog.KeyMap
import QueryCatalog.Toml.Basic

namespace QueryCatalog.Toml

abbrev Fields := List (String × Toml)

/-- The fields of a record whose names are declared. Items of an array that are too many are left
out; other names in a table are refused. -/
def record? (names : List String) : Toml → Option Fields
  | table members => if members.all fun m ↦ names.contains m.1 then some members else none
  | array items => some (names.zip items)
  | _ => none

/-- The fields of a record that has room for other names too. An instant gives no field. -/
def openRecord? (names : List String) : Toml → Option Fields
  | table members => some members
  | array items => some (names.zip items)
  | instant _ => some []
  | _ => none

namespace Fields

def required? {α : Type} (fields : Fields) (name : String) (read : Toml → Option α) : Option α := do
  read (← fields.lookup name)

def optional? {α : Type} (fields : Fields) (name : String) (read : Toml → Option α) :
    Option (Option α) :=
  match fields.lookup name with
  | none => some none
  | some v => (read v).map some

def get? {α : Type} (fields : Fields) (name : String) (read : Toml → Option α) (default : α) :
    Option α :=
  (fields.optional? name read).map fun a? ↦ a?.getD default

end Fields

def text? : Toml → Option String
  | string s => some s
  | _ => none

def flag? : Toml → Option Bool
  | bool b => some b
  | _ => none

def count? : Toml → Option Nat
  | integer i => if 0 ≤ i then some i.toNat else none
  | _ => none

def int32? : Toml → Option Int
  | integer i => if -Int.pow 2 31 ≤ i ∧ i < Int.pow 2 31 then some i else none
  | _ => none

def list? {α : Type} (read : Toml → Option α) : Toml → Option (List α)
  | array items => items.mapM read
  | _ => none

def texts? (v : Toml) : Option (List String) := list? text? v

def textSet? (v : Toml) : Option (List String) := do
  return (KeyMap.ofList ((← texts? v).map fun s ↦ (s, ()))).keys

/-- One of several choices: its name, or a table that holds nothing under its name. -/
def choice? {α : Type} (ofKey? : String → Option α) : Toml → Option α
  | string name => ofKey? name
  | table [(name, table [])] => ofKey? name
  | table [(name, array [])] => ofKey? name
  | _ => none

end QueryCatalog.Toml
