import QueryCatalog.Execution.Statement

namespace QueryCatalog

structure Invocation where
  method : String
  isExternal : Bool := true
  deriving DecidableEq, Repr

structure Interceptor (σ : Type) where
  name : String
  /-- Whether calls from inside pass the hook by. -/
  externalOnly : Bool
  before : Invocation → Action σ Unit
  after : Invocation → σ → σ
  onError : Invocation → Error → σ → σ

namespace Interceptor

variable {σ α : Type}

def appliesTo (i : Interceptor σ) (call : Invocation) : Bool := call.isExternal || !i.externalOnly

/-- Runs an operation inside the given hooks. A hook that refuses the call keeps the hooks behind
it and the operation from running. -/
def enclose (call : Invocation) : List (Interceptor σ) → Action σ α → Action σ α
  | [], work => work
  | i :: rest, work => fun s ↦
    match i.before call s with
    | (.error e, s) => (.error e, s)
    | (.ok (), s) =>
      match enclose call rest work s with
      | (.ok a, s) => (.ok a, i.after call s)
      | (.error e, s) => (.error e, i.onError call e s)

def invoke (hooks : List (Interceptor σ)) (call : Invocation) (work : Action σ α) : Action σ α :=
  enclose call (hooks.filter (·.appliesTo call)) work

end Interceptor

end QueryCatalog
