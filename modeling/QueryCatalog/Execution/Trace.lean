import QueryCatalog.Execution.Interceptor
import QueryCatalog.Execution.Transaction

namespace QueryCatalog

inductive Event
  | query (statement : Statement)
  | update (statement : Statement)
  | batch (sql : String) (rows : List (List Value)) (options : ExecOptions)
  | start (options : TransactionOptions)
  | commit
  | rollback
  | before (interceptor method : String)
  | after (interceptor : String)
  | onError (interceptor : String) (error : Error)
  | work

/-- A state together with the events so far, the latest first. -/
structure Traced (σ : Type) where
  state : σ
  events : List Event := []

namespace Traced

variable {σ τ α : Type}

def note (e : Event) (t : Traced σ) : Traced σ := { t with events := e :: t.events }

def trace (t : Traced σ) : List Event := t.events.reverse

def lift (m : Action σ α) : Action (Traced σ) α := fun t ↦
  match m t.state with
  | (r, s) => (r, { t with state := s })

def noting (e : Event) (m : Action σ α) : Action (Traced σ) α := fun t ↦ lift m (t.note e)

def executor (x : Executor σ) : Executor (Traced σ) where
  query statement := noting (.query statement) (x.query statement)
  update statement := noting (.update statement) (x.update statement)
  updateBatch sql rows options := noting (.batch sql rows options) (x.updateBatch sql rows options)

/-- The executor that runs a batch row by row, and notes every update. -/
def executorByRow (x : Executor σ) : Executor (Traced σ) where
  query := (executor x).query
  update := (executor x).update
  updateBatch := Executor.updateEach (executor x).update

def transactions (t : Transactions σ τ) : Transactions (Traced σ) τ where
  start options := noting (.start options) (t.start options)
  commit scope := noting .commit (t.commit scope)
  rollback scope := noting .rollback (t.rollback scope)

def interceptor (i : Interceptor σ) : Interceptor (Traced σ) where
  name := i.name
  externalOnly := i.externalOnly
  before call := noting (.before i.name call.method) (i.before call)
  after call t := { t.note (.after i.name) with state := i.after call t.state }
  onError call e t := { t.note (.onError i.name e) with state := i.onError call e t.state }

end Traced

end QueryCatalog
