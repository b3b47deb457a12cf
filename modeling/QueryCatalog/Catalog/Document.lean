import QueryCatalog.Catalog.Config
import QueryCatalog.Toml.Document
import QueryCatalog.Toml.Record

namespace QueryCatalog

def Merge.NestedSpec.ofToml? (v : Toml) : Option Merge.NestedSpec := do
  let fields ← v.record? ["property", "prefix", "identity", "scalar"]
  return ⟨← fields.required? "property" Toml.text?, ← fields.required? "prefix" Toml.text?,
    ← fields.get? "identity" Toml.texts? [], ← fields.get? "scalar" Toml.flag? false⟩

def Merge.Spec.ofToml? (v : Toml) : Option Merge.Spec := do
  let fields ← v.record? ["identity", "nested"]
  return ⟨← fields.get? "identity" Toml.texts? [],
    ← fields.get? "nested" (Toml.list? Merge.NestedSpec.ofToml?) []⟩

def TransactionOptions.ofToml? (v : Toml) : Option TransactionOptions := do
  let fields ← v.openRecord? ["propagation", "isolation"]
  return ⟨← fields.get? "propagation" (Toml.choice? Propagation.ofKey?) .required,
    ← fields.get? "isolation" (Toml.choice? Isolation.ofKey?) .driverDefault⟩

def CacheConfig.ofToml? (v : Toml) : Option CacheConfig := do
  let fields ← v.record? ["capacity", "live_time_ms", "idle_time_ms", "min_size", "max_size",
    "transfer", "shards"]
  return ⟨← fields.get? "capacity" Toml.count? 1000, ← fields.get? "live_time_ms" Toml.count? 0,
    ← fields.get? "idle_time_ms" Toml.count? 0, ← fields.get? "min_size" Toml.count? 0,
    ← fields.optional? "max_size" Toml.count?,
    ← fields.get? "transfer" (Toml.choice? Transfer.ofKey?) .copy,
    ← fields.get? "shards" Toml.count? 1⟩

namespace Method

def fieldNames : List String :=
  ["sql", "kind", "is_batch", "batch_size", "bind_as", "query_timeout", "fetch_size",
    "timestamped", "single_parameters", "define_with_named_parameter", "list_separator", "cached",
    "merge", "transaction"]

def ofToml? (v : Toml) : Option Method := do
  let fields ← v.record? fieldNames
  let options : ExecOptions := ⟨← fields.get? "query_timeout" Toml.int32? (-1),
    ← fields.get? "fetch_size" Toml.int32? (-1)⟩
  return {
    sql := ← fields.get? "sql" Toml.text? ""
    kind := ← fields.get? "kind" (Toml.choice? MethodKind.ofKey?) .read
    isBatch := ← fields.get? "is_batch" Toml.flag? false
    batchSize := ← fields.get? "batch_size" Toml.count? 1000
    bindAs? := ← fields.optional? "bind_as" Toml.text?
    execution := options
    timestamped := ← fields.get? "timestamped" Toml.flag? false
    singleParameters := ← fields.get? "single_parameters" Toml.textSet? []
    slotsFromParameters := ← fields.get? "define_with_named_parameter" Toml.flag? false
    listSeparator? := ← fields.optional? "list_separator" Toml.text?
    cached := ← fields.get? "cached" Toml.flag? true
    merge? := ← fields.optional? "merge" Merge.Spec.ofToml?
    transaction? := ← fields.optional? "transaction" TransactionOptions.ofToml? }

end Method

namespace CatalogConfig

def methodsOfToml? : Toml → Option (KeyMap Method)
  | .table members => do
    return KeyMap.ofList (← members.mapM fun m ↦ (Method.ofToml? m.2).map (m.1, ·))
  | _ => none

def ofToml? (v : Toml) : Option CatalogConfig := do
  let fields ← v.record? ["name", "cache", "refresh_filters", "methods"]
  return ⟨← fields.get? "name" Toml.text? "dao", ← fields.optional? "cache" CacheConfig.ofToml?,
    ← fields.get? "refresh_filters" Toml.texts? [],
    ← fields.get? "methods" methodsOfToml? ∅⟩

def parse (text : String) : Result CatalogConfig :=
  match Toml.parse? text >>= ofToml? with
  | none => .error .configSyntax
  | some c => do
    c.validate
    return c

end CatalogConfig

end QueryCatalog
