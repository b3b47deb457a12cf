import QueryCatalog.Error
import QueryCatalog.Template.Token
import QueryCatalog.Text.Case
import QueryCatalog.Value.Tagged

namespace QueryCatalog

structure Context where
  params : KeyMap Value
  fragments : KeyMap String
  deriving Inhabited

namespace Context

def empty : Context := ⟨∅, ∅⟩

def ofEntity (entity : Value) : Result Context :=
  match entity.properties? with
  | some params => .ok ⟨params, ∅⟩
  | none => .error (.config (.entityType entity.typeName))

def setParam (ctx : Context) (name : String) (value : Value) : Context :=
  { ctx with params := ctx.params.insert name value }

def setFragment (ctx : Context) (name fragment : String) : Context :=
  { ctx with fragments := ctx.fragments.insert name fragment }

def setParams (ctx : Context) (values : List (String × Value)) : Context :=
  { ctx with params := ctx.params.insertAll values }

def param? (ctx : Context) (name : String) : Option Value := ctx.params.get? name

def fragment? (ctx : Context) (name : String) : Option String := ctx.fragments.get? name

def tagged (ctx : Context) : Json :=
  .object
    [("params", .object (Value.propertiesTagged ctx.params.entries)),
      ("defines", .object (ctx.fragments.entries.map fun e ↦ (e.1, .string e.2)))]

def taggedText (ctx : Context) : String := ctx.tagged.compact

def readParams? (depth : Nat) : JsonSource → Option (KeyMap Value)
  | .object members =>
    match depth with
    | 0 => none
    | depth + 1 => do
      let members ← Value.readMembers? members
      return KeyMap.ofList
        (← members.mapM fun m ↦ (Value.ofTagged? depth false m.2).map (m.1, ·))
  | _ => none

def readFragments? (depth : Nat) : JsonSource → Option (KeyMap String)
  | .object members =>
    match depth with
    | 0 => none
    | _ + 1 => do
      let members ← Value.readMembers? members
      let entries ← members.mapM fun m ↦
        match m.2 with
        | .string s => (StringPiece.text? s).map (m.1, ·)
        | _ => none
      return KeyMap.ofList entries
  | _ => none

def readPart? {α : Type} (read : JsonSource → Option (KeyMap α)) :
    List JsonSource → Option (KeyMap α)
  | [] => some ∅
  | [part] => read part
  | _ => none

/-- Reads a context: an object with the members `params` and `defines`, or an array of the two. -/
def ofTagged? (depth : Nat) (j : JsonSource) : Option Context :=
  match depth with
  | 0 => none
  | depth + 1 => do
    let (params, fragments) ← match j with
      | .object members => do
        let members ← Value.readMembers? members
        pure (Value.membersNamed "params" members, Value.membersNamed "defines" members)
      | .array [] => pure ([], [])
      | .array [params] => pure ([params], [])
      | .array [params, fragments] => pure ([params], [fragments])
      | _ => none
    return ⟨← readPart? (readParams? depth) params, ← readPart? (readFragments? depth) fragments⟩

def parseTagged? (text : String) : Option Context := do
  ofTagged? Json.depthLimit (← JsonSource.parse? text)

end Context

abbrev Resolver := Value → String → Option Value

namespace Resolver

/-- The number that a segment of digits stands for, up to 64 bits. -/
def index? (segment : String) : Option Nat :=
  let cs := segment.toList
  let n := cs.foldl (fun n c ↦ 10 * n + (c.toNat - 48)) 0
  if !cs.isEmpty && cs.all Char.isDigit && n < Nat.pow 2 64 then some n else none

/-- Looks properties up by name and items of lists by position, counted from zero. -/
def byName : Resolver
  | .object properties, segment => KeyMap.lookup segment properties
  | .list items, segment => do items[← index? segment]?
  | _, _ => none

def byUpperCase : Resolver
  | .object properties, segment => KeyMap.lookup (Text.upper segment) properties
  | _, _ => none

end Resolver

structure BindOptions where
  /-- Parameters, or parameters with a path, whose list is passed as one value. -/
  singleParameters : List String := []
  timestamped : Bool := false
  /-- Whether a slot without fragment takes the text of the parameter of its name. -/
  slotsFromParameters : Bool := false
  listSeparator : String := ", "
  deriving DecidableEq, Repr, Inhabited

namespace BindOptions

def isSingle (opts : BindOptions) (p : Parameter) : Bool :=
  opts.singleParameters.contains p.name ||
    (!p.path.isEmpty && opts.singleParameters.contains p.label)

end BindOptions

/-- The name under which the instant of a call is bound. -/
def timestampName : String := "_timestamp"

end QueryCatalog
