import QueryCatalog.Execution.Statement

namespace QueryCatalog

inductive Propagation
  | required | requiresNew | supports | notSupported | mandatory | never | nested
  deriving DecidableEq, Repr, Inhabited

inductive Isolation
  | driverDefault | readUncommitted | readCommitted | repeatableRead | serializable
  deriving DecidableEq, Repr, Inhabited

namespace Propagation

def name : Propagation → String
  | required => "Required"
  | requiresNew => "RequiresNew"
  | supports => "Supports"
  | notSupported => "NotSupported"
  | mandatory => "Mandatory"
  | never => "Never"
  | nested => "Nested"

def ofKey? : String → Option Propagation
  | "required" => some required
  | "requires_new" => some requiresNew
  | "supports" => some supports
  | "not_supported" => some notSupported
  | "mandatory" => some mandatory
  | "never" => some never
  | "nested" => some nested
  | _ => none

end Propagation

namespace Isolation

def name : Isolation → String
  | driverDefault => "Default"
  | readUncommitted => "ReadUncommitted"
  | readCommitted => "ReadCommitted"
  | repeatableRead => "RepeatableRead"
  | serializable => "Serializable"

def ofKey? : String → Option Isolation
  | "default" => some driverDefault
  | "read_uncommitted" => some readUncommitted
  | "read_committed" => some readCommitted
  | "repeatable_read" => some repeatableRead
  | "serializable" => some serializable
  | _ => none

end Isolation

structure TransactionOptions where
  propagation : Propagation := .required
  isolation : Isolation := .driverDefault
  deriving DecidableEq, Repr, Inhabited

def TransactionOptions.display (o : TransactionOptions) : String :=
  o.propagation.name ++ "/" ++ o.isolation.name

/-- What opens and ends transactions; `τ` is what it knows of an open scope. -/
structure Transactions (σ τ : Type) where
  start : TransactionOptions → Action σ τ
  commit : τ → Action σ Unit
  rollback : τ → Action σ Unit

namespace Transactions

variable {σ τ α : Type}

/-- Runs an operation in a scope of its own. The error of a failed operation is never replaced by
one of the rollback. -/
def around (t : Transactions σ τ) (options : TransactionOptions) (work : Action σ α) :
    Action σ α := fun s ↦
  match t.start options s with
  | (.error e, s) => (.error e, s)
  | (.ok scope, s) =>
    match work s with
    | (.ok a, s) =>
      match t.commit scope s with
      | (.ok (), s) => (.ok a, s)
      | (.error e, s) => (.error e, s)
    | (.error e, s) => (.error e, (t.rollback scope s).2)

def aroundAbandoned (t : Transactions σ τ) (options : TransactionOptions) (work : Action σ α) :
    Action σ α := fun s ↦
  match t.start options s with
  | (.error e, s) => (.error e, s)
  | (.ok scope, s) =>
    match work s with
    | (r, s) => (r, (t.rollback scope s).2)

end Transactions

end QueryCatalog
