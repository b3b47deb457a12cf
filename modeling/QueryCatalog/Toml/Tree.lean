import QueryCatalog.Toml.Basic

namespace QueryCatalog.Toml

inductive Origin
  | header
  | onTheWay
  | dotted
  deriving DecidableEq, Repr

inductive Node
  | value (v : Toml)
  | table (origin : Origin) (entries : List (String × Node))
  /-- The tables of an array: the one that was opened last, and those before it. -/
  | tables (last : List (String × Node)) (earlier : List (List (String × Node)))

abbrev Entries := List (String × Node)

namespace Entries

def find? (entries : Entries) (key : String) : Option Node := entries.lookup key

def set (key : String) (node : Node) : Entries → Entries
  | [] => [(key, node)]
  | e :: rest => if e.1 = key then (key, node) :: rest else e :: set key node rest

/-- Changes the table at the end of a path. Tables that are missing are made with the origin
`made`, a table is passed if `passes` allows its origin, and of an array the last table is. -/
def update (made : Origin) (passes : Origin → Bool) (change : Origin → Entries → Option Entries) :
    List String → Origin → Entries → Option Entries
  | [], origin, entries => change origin entries
  | key :: path, _, entries =>
    match entries.find? key with
    | none =>
      (update made passes change path made []).map fun es ↦ entries.set key (.table made es)
    | some (.table origin es) =>
      if passes origin then
        (update made passes change path origin es).map fun es ↦
          entries.set key (.table origin es)
      else none
    | some (.tables last earlier) =>
      (update made passes change path .header last).map fun es ↦
        entries.set key (.tables es earlier)
    | some (.value _) => none

def add (key : String) (v : Toml) (entries : Entries) : Option Entries :=
  match entries.find? key with
  | none => some (entries.set key (.value v))
  | some _ => none

def assign (path : List String) (key : String) (v : Toml) (entries : Entries) : Option Entries :=
  update .dotted (· ≠ .header)
    (fun origin es ↦ if path.isEmpty ∨ origin = .dotted then add key v es else none)
    path .header entries

def openTable (path : List String) (key : String) (entries : Entries) : Option Entries :=
  update .onTheWay (fun _ ↦ true)
    (fun _ es ↦
      match es.find? key with
      | none => some (es.set key (.table .header []))
      | some (.table .onTheWay inner) => some (es.set key (.table .header inner))
      | some _ => none)
    path .header entries

def openItem (path : List String) (key : String) (entries : Entries) : Option Entries :=
  update .onTheWay (fun _ ↦ true)
    (fun _ es ↦
      match es.find? key with
      | none => some (es.set key (.tables [] []))
      | some (.tables last earlier) => some (es.set key (.tables [] (last :: earlier)))
      | some _ => none)
    path .header entries

end Entries

mutual

def Node.toToml : Node → Toml
  | .value v => v
  | .table _ entries => .table (entriesToToml entries)
  | .tables last earlier => .array (tablesToToml earlier [.table (entriesToToml last)])

def entriesToToml : List (String × Node) → List (String × Toml)
  | [] => []
  | (key, node) :: entries => (key, node.toToml) :: entriesToToml entries

def tablesToToml : List (List (String × Node)) → List Toml → List Toml
  | [], done => done
  | entries :: earlier, done => tablesToToml earlier (.table (entriesToToml entries) :: done)

end

end QueryCatalog.Toml
