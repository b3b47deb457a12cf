import QueryCatalog.Binding.Binder
import QueryCatalog.Cache.ResultCache
import QueryCatalog.Catalog.Config

namespace QueryCatalog

structure PreparedMethod where
  method : Method
  template : Template
  deriving DecidableEq, Inhabited

structure Catalog where
  name : String
  methods : KeyMap PreparedMethod
  resolver : Resolver

abbrev CatalogCache := ResultCache (List Value)

namespace Catalog

def prepareAll : List (String × Method) → Binder → Result (List (String × PreparedMethod))
  | [], _ => .ok []
  | (name, m) :: methods, b =>
    match b.template m.sql with
    | (.error e, _) => .error e
    | (.ok t, b) => (prepareAll methods b).map fun rest ↦ (name, ⟨m, t⟩) :: rest

def buildCache (c : CatalogConfig) (memory : Memory) : Result (Option CatalogCache) :=
  match c.cache? with
  | none => .ok none
  | some limits => do
    let filters ← RefreshFilter.parseAll c.refreshFilters
    return some (← ResultCache.create limits filters memory)

/-- Builds the catalog of a configuration and its empty cache. -/
def build (c : CatalogConfig) (b : Binder) (memory : Memory := .addressable) :
    Result (Catalog × Option CatalogCache) := do
  c.validate
  let cache? ← buildCache c memory
  let methods ← prepareAll c.methods.entries b
  return (⟨c.name, KeyMap.ofList methods, b.resolver⟩, cache?)

def method (c : Catalog) (name : String) : Result PreparedMethod :=
  match c.methods.get? name with
  | some m => .ok m
  | none => .error (.config (.unknownMethod c.name name))

def readMethod (c : Catalog) (name : String) : Result PreparedMethod := do
  let m ← c.method name
  if m.method.kind = .read then return m else throw (.config (.notRead name))

def writeMethod (c : Catalog) (name : String) : Result PreparedMethod := do
  let m ← c.method name
  if m.method.kind = .write then return m else throw (.config (.notWrite name))

def bindMethod (c : Catalog) (m : PreparedMethod) (args : Context) (now : Int) : Result Plan :=
  Binding.bind c.resolver m.template args m.method.bindOptions now

def plan (c : Catalog) (name : String) (args : Context) (now : Int) : Result Plan := do
  c.bindMethod (← c.method name) args now

end Catalog

end QueryCatalog
