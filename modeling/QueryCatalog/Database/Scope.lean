import QueryCatalog.Database.Connection

namespace QueryCatalog.Database

inductive Scope
  /-- Nothing of its own: the end of the scope changes nothing. -/
  | joined
  | transaction
  | savepoint
  deriving DecidableEq, Repr

namespace Scope

def choose (p : Propagation) (inside : Bool) : Result Scope :=
  match p, inside with
  | .required, true | .supports, true | .mandatory, true => .ok joined
  | .supports, false | .notSupported, false | .never, false => .ok joined
  | .mandatory, false => .error (.transaction "no active transaction for MANDATORY")
  | .never, true => .error (.transaction "transaction active for NEVER")
  | .notSupported, true | .requiresNew, true =>
    .error (.transaction ("sqlite cannot suspend an open transaction for " ++ p.name))
  | .nested, true => .ok savepoint
  | .required, false | .requiresNew, false | .nested, false => .ok transaction

def enter : Scope → Connection → Connection
  | joined, c => c
  | transaction, c => c.start
  | savepoint, c => c.setSavepoint

def commit : Scope → Connection → Connection
  | joined, c => c
  | transaction, c => c.commit
  | savepoint, c => c.releaseSavepoint

def rollback : Scope → Connection → Connection
  | joined, c => c
  | transaction, c => c.rollback
  | savepoint, c => c.revertToSavepoint.releaseSavepoint

/-- Starts the scope of a propagation; the isolation is that of the connection. -/
def start (options : TransactionOptions) : Action Connection Scope := fun c ↦
  match choose options.propagation c.inTransaction with
  | .ok scope => (.ok scope, scope.enter c)
  | .error e => (.error e, c)

end Scope

def transactions : Transactions Connection Scope where
  start := Scope.start
  commit scope c := (.ok (), scope.commit c)
  rollback scope c := (.ok (), scope.rollback c)

end QueryCatalog.Database
