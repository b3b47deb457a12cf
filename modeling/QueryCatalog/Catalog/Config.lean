import QueryCatalog.Binding.Plan
import QueryCatalog.Cache.Config
import QueryCatalog.Execution.Transaction
import QueryCatalog.Merge.Spec
import QueryCatalog.Text.Visible

namespace QueryCatalog

inductive MethodKind
  | read
  | write
  deriving DecidableEq, Repr, Inhabited

namespace MethodKind

def name : MethodKind → String
  | read => "Read"
  | write => "Write"

def ofKey? : String → Option MethodKind
  | "read" => some read
  | "write" => some write
  | _ => none

end MethodKind

structure Method where
  sql : String := ""
  kind : MethodKind := .read
  /-- Whether the statement runs once for each unit of a batch. -/
  isBatch : Bool := false
  batchSize : Nat := 1000
  /-- The parameter whose items are the units of a batch. Without it, the lists of the arguments
  are taken apart. -/
  bindAs? : Option String := none
  execution : ExecOptions := {}
  timestamped : Bool := false
  /-- In increasing order and without repetition. -/
  singleParameters : List String := []
  slotsFromParameters : Bool := false
  listSeparator? : Option String := none
  cached : Bool := true
  merge? : Option Merge.Spec := none
  transaction? : Option TransactionOptions := none
  deriving DecidableEq, Repr, Inhabited

namespace Method

def bindOptions (m : Method) : BindOptions where
  singleParameters := m.singleParameters
  timestamped := m.timestamped
  slotsFromParameters := m.slotsFromParameters
  listSeparator := m.listSeparator?.getD ", "

def check (m : Method) : Except MethodFault Unit :=
  if (Text.trim m.sql.toList).isEmpty then .error .emptySql
  else if m.batchSize = 0 then .error .zeroBatchSize
  else if m.isBatch ∧ m.kind ≠ .write then .error .batchRead
  else if m.merge?.isSome ∧ m.kind ≠ .read then .error .mergeWrite
  else m.execution.check.mapError .options

def validate (m : Method) (name : String) : Result Unit :=
  m.check.mapError fun f ↦ .config (.method name f)

end Method

structure CatalogConfig where
  name : String := "dao"
  cache? : Option CacheConfig := none
  refreshFilters : List String := []
  methods : KeyMap Method := ∅
  deriving Inhabited

namespace CatalogConfig

def validateCache (c : CatalogConfig) : Result Unit :=
  match c.cache? with
  | some cache => cache.validate
  | none => .ok ()

def validateMethod (name : String) (m : Method) : Result Unit := do
  if name.isEmpty then throw (.config .emptyMethodName)
  m.validate name
  let _ ← Binding.compile m.sql

def validateMethods : List (String × Method) → Result Unit
  | [] => .ok ()
  | (name, m) :: methods => do
    validateMethod name m
    validateMethods methods

def validate (c : CatalogConfig) : Result Unit := do
  c.validateCache
  let _ ← RefreshFilter.parseAll c.refreshFilters
  validateMethods c.methods.entries

end CatalogConfig

end QueryCatalog
