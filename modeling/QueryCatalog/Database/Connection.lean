import QueryCatalog.Database.Cell
import QueryCatalog.Database.NumericText
import QueryCatalog.Execution.Transaction

namespace QueryCatalog.Database

abbrev Keys := List Int

def addKey (k : Int) : Keys → Option Keys
  | [] => some [k]
  | k' :: rest =>
    if k < k' then some (k :: k' :: rest)
    else if k = k' then none
    else (addKey k rest).map (k' :: ·)

/-- An open transaction: the table at its start, and the tables at its savepoints, the latest
first. -/
structure OpenTransaction where
  start : Keys
  savepoints : List Keys := []
  deriving DecidableEq, Repr

structure Connection where
  keys : Keys := []
  transaction? : Option OpenTransaction := none
  deriving DecidableEq, Repr, Inhabited

def freeFrom (n : Int) : Keys → Int
  | [] => n
  | k :: rest => if k < n then freeFrom n rest else if k = n then freeFrom (n + 1) rest else n

def largestKey : Int := Int64.maxValue.toInt

/-- The key of a row that comes without one: the last key plus one. Behind the largest key the
database takes a free positive key at random; here it is the first. -/
def nextKey (keys : Keys) : Int :=
  match keys.getLast? with
  | none => 1
  | some k => if k < largestKey then k + 1 else freeFrom 1 keys

def keyOf (keys : Keys) : Cell → Result Int
  | .integer i => .ok i.toInt
  | .null => .ok (nextKey keys)
  | .real x =>
    match wholeNumber? x with
    | some i => .ok i
    | none => .error (.execution "datatype mismatch")
  | .text s =>
    match wholeNumberOfText? s with
    | some i => .ok i
    | none => .error (.execution "datatype mismatch")
  | _ => .error (.execution "datatype mismatch")

namespace Connection

def inTransaction (c : Connection) : Bool := c.transaction?.isSome

def insert (v : Value) : Action Connection Nat := fun c ↦
  match Cell.ofValue v >>= keyOf c.keys with
  | .error e => (.error e, c)
  | .ok k =>
    match addKey k c.keys with
    | some keys => (.ok 1, { c with keys := keys })
    | none => (.error (.execution "UNIQUE constraint failed: t.id"), c)

def insertEach : List Value → Action Connection (List Nat)
  | [] => .ofResult (.ok [])
  | v :: vs =>
    Action.andThen (insert v) fun n ↦
      Action.andThen (insertEach vs) fun ns ↦ .ofResult (.ok (n :: ns))

def deleteAll : Action Connection Nat := fun c ↦ (.ok c.keys.length, { c with keys := [] })

def start (c : Connection) : Connection := { c with transaction? := some ⟨c.keys, []⟩ }

def commit (c : Connection) : Connection := { c with transaction? := none }

def rollback (c : Connection) : Connection :=
  match c.transaction? with
  | some t => ⟨t.start, none⟩
  | none => c

def setSavepoint (c : Connection) : Connection :=
  { c with transaction? := c.transaction?.map fun t ↦ { t with
      savepoints := c.keys :: t.savepoints } }

def releaseSavepoint (c : Connection) : Connection :=
  { c with transaction? := c.transaction?.map fun t ↦ { t with
      savepoints := t.savepoints.tail } }

/-- Goes back to the table of the latest savepoint, and keeps the savepoint. -/
def revertToSavepoint (c : Connection) : Connection :=
  match c.transaction? with
  | some ⟨_, keys :: _⟩ => { c with keys := keys }
  | _ => c

end Connection

end QueryCatalog.Database
