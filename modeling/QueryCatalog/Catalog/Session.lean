import QueryCatalog.Batch.Execution
import QueryCatalog.Catalog.Basic
import QueryCatalog.Execution.Interceptor
import QueryCatalog.Merge.Stream

namespace QueryCatalog

/-- What calls change: the cache, its clock, and the state of the database and the hooks. -/
structure Session (σ : Type) where
  cache? : Option CatalogCache
  clock : Clock
  state : σ

namespace Session

variable {σ α : Type}

def lift (m : Action σ α) : Action (Session σ) α := fun s ↦
  match m s.state with
  | (r, t) => (r, { s with state := t })

def liftHook (i : Interceptor σ) : Interceptor (Session σ) where
  name := i.name
  externalOnly := i.externalOnly
  before call := lift (i.before call)
  after call s := { s with state := i.after call s.state }
  onError call e s := { s with state := i.onError call e s.state }

def withCache (cached : Action (Cached (List Value) σ) α) (plain : Action σ α) :
    Action (Session σ) α := fun s ↦
  match s.cache? with
  | none => lift plain s
  | some cache =>
    match cached ⟨cache, s.clock, s.state⟩ with
    | (r, w) => (r, ⟨some w.cache, w.clock, w.state⟩)

def reading (key : CacheKey) (fetch : Action σ (List Value)) :
    Action (Session σ) (List Value) :=
  withCache (Cached.read key (Cached.lift fetch)) fetch

def writing (method : String) (work : Action σ α) : Action (Session σ) α :=
  withCache (Cached.write method (Cached.lift work)) work

end Session

structure Collaborators (σ τ : Type) where
  executor : Executor σ
  transactions? : Option (Transactions σ τ) := none
  /-- The first is the outermost. -/
  hooks : List (Interceptor σ) := []

namespace Catalog

variable {σ τ α : Type}

def transactional (x : Collaborators σ τ) (m : PreparedMethod) (work : Action σ α) :
    Action σ α :=
  match m.method.transaction?, x.transactions? with
  | none, _ => work
  | some options, some t => t.around options work
  | some _, none => .ofResult (.error .noTransactions)

/-- The rows of a query as values: merged if the method says how, and one object each otherwise. -/
def valuesOf (m : PreparedMethod) (rows : List (Result Row)) : Result (List Value) :=
  match m.method.merge? with
  | some spec => Merge.mergeAll spec rows
  | none => rows.mapM fun row ↦ row.map Row.toObject

def statement (m : PreparedMethod) (p : Plan) : Statement := ⟨p.sql, p.values, m.method.execution⟩

def fetch (c : Catalog) (x : Collaborators σ τ) (m : PreparedMethod) (args : Context)
    (now : Int) : Action σ (List Value) :=
  Action.andThen (.ofResult (c.bindMethod m args now)) fun plan ↦
    Action.andThen (x.executor.query (statement m plan)) fun rows ↦
      .ofResult (valuesOf m rows)

def send (c : Catalog) (x : Collaborators σ τ) (m : PreparedMethod) (args : Context)
    (now : Int) : Action σ Nat :=
  Action.andThen (.ofResult (c.bindMethod m args now)) fun plan ↦
    x.executor.update (statement m plan)

def sendUnits (c : Catalog) (x : Collaborators σ τ) (m : PreparedMethod) (units : List Context)
    (now : Int) : Action σ (List Nat) :=
  Action.andThen
    (Batch.execute c.resolver x.executor m.method.execution m.template units
      m.method.bindOptions m.method.batchSize now)
    fun report ↦ .ofResult report.toResult

def intercepted (x : Collaborators σ τ) (call : Invocation) (work : Action (Session σ) α) :
    Action (Session σ) α :=
  Interceptor.invoke (x.hooks.map Session.liftHook) call work

def query (c : Catalog) (x : Collaborators σ τ) (call : Invocation) (args : Context)
    (now : Int) : Action (Session σ) (List Value) :=
  match c.readMethod call.method with
  | .error e => .ofResult (.error e)
  | .ok m =>
    let work := transactional x m (c.fetch x m args now)
    intercepted x call
      (if m.method.cached then Session.reading (.ofContext call.method args) work
        else Session.lift work)

def batch (c : Catalog) (x : Collaborators σ τ) (call : Invocation) (units : List Context)
    (now : Int) : Action (Session σ) (List Nat) :=
  match c.writeMethod call.method with
  | .error e => .ofResult (.error e)
  | .ok m =>
    intercepted x call
      (Session.writing call.method (transactional x m (c.sendUnits x m units now)))

/-- The units that the arguments of a batch method stand for. -/
def unitsFor (m : PreparedMethod) (args : Context) : Result (List Context) :=
  match m.method.bindAs? with
  | none => Batch.unitsOfColumns args m.method.bindOptions
  | some name =>
    match args.param? name with
    | none => .error (.missingParameter name)
    | some entities =>
      match entities.items? with
      | none => .error (.config (.entitiesNotList name))
      | some items =>
        let shared := { args with params := args.params.filterKeys (· != name) }
        Batch.unitsOfEntities items (some name) shared

def update (c : Catalog) (x : Collaborators σ τ) (call : Invocation) (args : Context)
    (now : Int) : Action (Session σ) Nat :=
  match c.writeMethod call.method with
  | .error e => .ofResult (.error e)
  | .ok m =>
    if m.method.isBatch then
      Action.andThen (.ofResult (unitsFor m args)) fun units ↦
        Action.andThen (c.batch x call units now) fun counts ↦ .ofResult (.ok (rowTotal counts))
    else
      intercepted x call
        (Session.writing call.method (transactional x m (c.send x m args now)))

end Catalog

end QueryCatalog
