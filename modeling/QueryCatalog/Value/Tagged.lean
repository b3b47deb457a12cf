import QueryCatalog.Value.Instant
import QueryCatalog.Value.Plain

namespace QueryCatalog.Value

def tag (name : String) (content : Json) : Json :=
  .object [("t", .string name), ("v", content)]

mutual

def tagged : Value → Json
  | null => .object [("t", .string "Null")]
  | bool b => tag "Bool" (.bool b)
  | int i => tag "Int" (.number (.integer i.toInt))
  | float x => tag "Float" (.number (.real x))
  | string s => tag "String" (.string s)
  | bytes data => tag "Bytes" (.array (data.map fun b ↦ .number (.integer b.toNat)))
  | dateTime ns => tag "DateTime" (.number (.integer ns))
  | list items => tag "List" (.array (listTagged items))
  | object properties => tag "Object" (.object (propertiesTagged properties))

def listTagged : List Value → List Json
  | [] => []
  | item :: items => tagged item :: listTagged items

def propertiesTagged : List (String × Value) → List (String × Json)
  | [] => []
  | (name, value) :: properties => (name, tagged value) :: propertiesTagged properties

end

def taggedText (v : Value) : String := v.tagged.compact

inductive Kind
  | null | bool | int | float | string | bytes | dateTime | list | object
  deriving DecidableEq, Repr

namespace Kind

def all : List Kind := [null, bool, int, float, string, bytes, dateTime, list, object]

def name : Kind → String
  | null => "Null"
  | bool => "Bool"
  | int => "Int"
  | float => "Float"
  | string => "String"
  | bytes => "Bytes"
  | dateTime => "DateTime"
  | list => "List"
  | object => "Object"

def ofName? (name : String) : Option Kind := all.find? fun k ↦ k.name == name

theorem ofName?_name (k : Kind) : ofName? k.name = some k := by cases k <;> decide

end Kind

def readMember? (name : List StringPiece) (content : JsonSource) (held : Bool) : Option Kind :=
  match content, held with
  | .null, _ => do Kind.ofName? (← StringPiece.text? name)
  | .object [], true => do Kind.ofName? (← StringPiece.text? name)
  | _, _ => none

/-- Reads the type of a value that is an object: text, or an object whose only member has that
name and holds null. In a document that was held back the member may hold an empty object. -/
def readKind? (depth : Nat) (held : Bool) : JsonSource → Option Kind
  | .string s => do Kind.ofName? (← StringPiece.text? s)
  | .object [(name, content)] => if depth = 0 then none else readMember? name content held
  | _ => none

/-- Reads the type of a value that is an array: text, or in a document that was held back also the
place of the type among all types. -/
def readFirst? (held : Bool) : JsonSource → Option Kind
  | .string s => do Kind.ofName? (← StringPiece.text? s)
  | .number n =>
    match held, n.toNumber? with
    | true, some (.integer i) => if 0 ≤ i then Kind.all[i.toNat]? else none
    | _, _ => none
  | _ => none

def toReal : JsonNumber → Binary64
  | .integer i =>
    let size := Binary64.ofNat i.natAbs
    if i < 0 then size.neg else size
  | .real x => x

def readInteger? : JsonSource → Option Int
  | .number n => match n.toNumber? with
    | some (.integer i) => some i
    | _ => none
  | _ => none

def readByte? (j : JsonSource) : Option UInt8 := do
  let i ← readInteger? j
  if 0 ≤ i ∧ i < 256 then return i.toNat.toUInt8 else none

def readLeaf? (kind : Kind) (content : JsonSource) : Option Value :=
  match kind, content with
  | .null, .null => some null
  | .bool, .bool b => some (bool b)
  | .int, j => do
    let i ← readInteger? j
    if fitsInt i then return int (Int64.ofInt i) else none
  | .float, .number n => n.toNumber?.map fun n ↦ float (toReal n)
  | .string, .string s => (StringPiece.text? s).map string
  | .dateTime, .string s => do return dateTime (← Instant.ofText? (← StringPiece.text? s))
  | .dateTime, j => (readInteger? j).map dateTime
  | _, _ => none

def readMembers? (members : List (List StringPiece × JsonSource)) :
    Option (List (String × JsonSource)) :=
  members.mapM fun m ↦ (StringPiece.text? m.1).map (·, m.2)

def membersNamed (name : String) (members : List (String × JsonSource)) : List JsonSource :=
  (members.filter fun m ↦ m.1 == name).map Prod.snd

def contentFirst (members : List (String × JsonSource)) : Bool :=
  (members.find? fun m ↦ m.1 == "t" || m.1 == "v").any fun m ↦ m.1 == "v"

structure Tag where
  kind : Kind
  content? : Option JsonSource
  /-- Whether the content was held back until its type was known. -/
  held : Bool

/-- The type and the content of a tagged value: the members `t` and `v` of an object, which may
have other members, or the two items of an array. A content that stands before its type must be a
document of its own, and is held back with all that is in it. -/
def readTag? (depth : Nat) (held : Bool) : JsonSource → Option Tag
  | .object members => do
    let members ← readMembers? members
    match membersNamed "t" members, membersNamed "v" members with
    | [t], [] => return ⟨← readKind? depth held t, none, held⟩
    | [t], [v] =>
      let early := contentFirst members
      if early && (Json.ofSource? depth v).isNone then none
      else return ⟨← readKind? depth held t, some v, held || early⟩
    | _, _ => none
  | .array [t, v] => do return ⟨← readFirst? held t, some v, held⟩
  | _ => none

def readFlat? (tag : Tag) : Option Value :=
  match tag.content?, tag.kind with
  | none, .null => some null
  | none, _ => none
  | some content, kind => readLeaf? kind content

def readNested? (read : JsonSource → Option Value) (tag : Tag) : Option Value :=
  match tag.content?, tag.kind with
  | some (.array items), .list => (items.mapM read).map list
  | some (.array items), .bytes => (items.mapM readByte?).map bytes
  | some (.object members), .object => do
    let members ← readMembers? members
    let properties ← members.mapM fun m ↦ (read m.2).map (m.1, ·)
    return ofProperties (KeyMap.ofList properties)
  | _, _ => readFlat? tag

def ofTagged? : Nat → Bool → JsonSource → Option Value
  | 0, _, _ => none
  | 1, held, j => do readFlat? (← readTag? 0 held j)
  | depth + 2, held, j => do
    let tag ← readTag? (depth + 1) held j
    readNested? (ofTagged? depth tag.held) tag

def parseTagged? (text : String) : Option Value := do
  ofTagged? Json.depthLimit false (← JsonSource.parse? text)

end QueryCatalog.Value
