import QueryCatalog.Counting
import QueryCatalog.Template.Token

namespace QueryCatalog

inductive OptionFault
  | queryTimeout (seconds : Int)
  | fetchSize (rows : Int)
  deriving DecidableEq, Repr

namespace OptionFault

def message : OptionFault → String
  | queryTimeout seconds =>
    s!"query_timeout must be -1 or a non-negative number of seconds (got {seconds})"
  | fetchSize rows => s!"fetch_size must be -1 or positive (got {rows})"

end OptionFault

inductive MethodFault
  | emptySql
  | zeroBatchSize
  | batchRead
  | mergeWrite
  | options (fault : OptionFault)
  deriving DecidableEq, Repr

namespace MethodFault

def message : MethodFault → String
  | emptySql => "sql must not be empty"
  | zeroBatchSize => "batch_size must be positive"
  | batchRead => "batch methods must be writes"
  | mergeWrite => "only reads can merge rows"
  | options fault => "invalid configuration: " ++ fault.message

end MethodFault

inductive ConfigFault
  | zeroCapacity
  | shardCount (capacity shards : Nat)
  | sizeLimits (minSize maxSize : Nat)
  | emptyFilter
  /-- A filter that is no regular expression; what is wrong with it is not reported. -/
  | badPattern (filter : String)
  | emptyMethodName
  | method (name : String) (fault : MethodFault)
  | options (fault : OptionFault)
  | zeroBatchSize
  | entityType (typeName : String)
  | entitiesNotList (parameter : String)
  | nestedIdentity (stem field : String)
  | identityColumn (column : String)
  | unknownMethod (catalog method : String)
  | notRead (method : String)
  | notWrite (method : String)
  deriving DecidableEq, Repr

namespace ConfigFault

def message : ConfigFault → String
  | zeroCapacity => "cache capacity must be positive"
  | shardCount capacity shards =>
    s!"cache shards must be between 1 and capacity ({capacity}), got {shards}"
  | sizeLimits minSize maxSize => s!"cache min_size {minSize} exceeds max_size {maxSize}"
  | emptyFilter => "refresh filter must not be empty"
  | badPattern filter => s!"refresh filter '{filter}': <regex>"
  | emptyMethodName => "method names must not be empty"
  | method name fault => s!"method '{name}': " ++ fault.message
  | options fault => fault.message
  | zeroBatchSize => "batch_size must be positive"
  | entityType typeName => s!"entity must be an object to bind by property, got {typeName}"
  | entitiesNotList parameter => s!"batch parameter '{parameter}' must be a list of entities"
  | nestedIdentity stem field => s!"nested identity '{stem}.{field}' not in result columns"
  | identityColumn column => s!"identity column '{column}' not in result"
  | unknownMethod catalog name => s!"dao '{catalog}' has no method '{name}'"
  | notRead name => s!"method '{name}' is not a read"
  | notWrite name => s!"method '{name}' is not a write"

end ConfigFault

inductive Error
  | template (fault : Template.Fault)
  | missingSlot (name : String)
  | missingParameter (name : String)
  | unresolvedPath (parameter path segment : String)
  | reservedParameter (name : String)
  | batchCardinality (parameter : String) (expected found : Nat)
  /-- A chunk of a batch failed; the units from its start on are left without a result. -/
  | batchChunk (chunk : Nat) (units unresolved : Span) (source : Error)
  | rowOrder (key : String) (row : Nat)
  | config (fault : ConfigFault)
  | configSyntax
  | execution (message : String)
  | rowWidth (row values columns : Nat)
  | countMismatch (counts statements : Nat)
  | transaction (message : String)
  | noTransactions
  | rejected (interceptor message : String)
  | io
  | json
  /-- The program stops: no machine can lay out what it is to build. No caller gets this error. -/
  | outOfMemory
  deriving DecidableEq, Repr

namespace Error

def code : Error → String
  | template _ => "TemplateSyntaxError"
  | missingSlot _ => "MissingTemplateVariable"
  | missingParameter _ => "MissingParameter"
  | unresolvedPath _ _ _ => "UnresolvedPropertyPath"
  | reservedParameter _ => "ReservedParameterConflict"
  | batchCardinality _ _ _ => "BatchCardinalityMismatch"
  | batchChunk _ _ _ _ => "BatchChunkFailed"
  | rowOrder _ _ => "UnsupportedRowOrdering"
  | config _ => "InvalidConfig"
  | configSyntax => "InvalidConfig"
  | execution _ => "ExecutionFailed"
  | rowWidth _ _ _ => "ExecutionFailed"
  | countMismatch _ _ => "ExecutionFailed"
  | transaction _ => "TransactionFailed"
  | noTransactions => "TransactionFailed"
  | rejected _ _ => "InterceptorRejected"
  | io => "Io"
  | json => "Json"
  | outOfMemory => "panic"

def message : Error → String
  | template fault =>
    let text := fault.kind.message
    s!"template syntax error at byte {fault.offset}: {text}"
  | missingSlot name => s!"missing template variable '{name}'"
  | missingParameter name => s!"missing parameter '{name}'"
  | unresolvedPath parameter path segment =>
    s!"unresolved property path '{parameter}.{path}' (segment '{segment}')"
  | reservedParameter name => s!"parameter '{name}' is reserved for the operation timestamp"
  | batchCardinality parameter expected found =>
    s!"batch parameter '{parameter}' has {found} elements, expected {expected}"
  | batchChunk chunk units _ source =>
    s!"batch chunk {chunk} (units {units.start}..{units.stop}) failed: " ++ source.message
  | rowOrder key row => s!"rows for identity key {key} are not contiguous (row {row})"
  | config fault => "invalid configuration: " ++ fault.message
  | configSyntax => "config parse error"
  | execution text => "statement execution failed: " ++ text
  | rowWidth row values columns =>
    s!"statement execution failed: row {row} has {values} values for {columns} columns"
  | countMismatch counts statements =>
    s!"statement execution failed: driver returned {counts} counts for {statements} statements"
  | transaction text => "transaction error: " ++ text
  | noTransactions =>
    "transaction error: method declares a transaction but the dao has no transaction context"
  | rejected interceptor text => s!"interceptor '{interceptor}' rejected invocation: {text}"
  | io => ""
  | json => ""
  | outOfMemory => ""

def withCode (e : Error) : String :=
  if e.message.isEmpty then s!"[{e.code}]" else s!"[{e.code}] {e.message}"

end Error

abbrev Result (α : Type) := Except Error α

end QueryCatalog
