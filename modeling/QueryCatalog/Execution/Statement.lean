import QueryCatalog.Error
import QueryCatalog.Rows.Row
import QueryCatalog.Counting

namespace QueryCatalog

/-- An operation on a state: it may fail, and the state goes on in either case. -/
abbrev Action (σ α : Type) := σ → Result α × σ

namespace Action

variable {σ α β : Type}

def andThen (m : Action σ α) (f : α → Action σ β) : Action σ β := fun s ↦
  match m s with
  | (.ok a, s) => f a s
  | (.error e, s) => (.error e, s)

def ofResult (r : Result α) : Action σ α := fun s ↦ (r, s)

end Action

/-- Settings that are passed to the driver; -1 stands for the driver's own. -/
structure ExecOptions where
  queryTimeout : Int := -1
  fetchSize : Int := -1
  deriving DecidableEq, Repr, Inhabited

namespace ExecOptions

def check (o : ExecOptions) : Except OptionFault Unit :=
  if o.queryTimeout < -1 then .error (.queryTimeout o.queryTimeout)
  else if o.fetchSize ≠ -1 ∧ o.fetchSize ≤ 0 then .error (.fetchSize o.fetchSize)
  else .ok ()

def validate (o : ExecOptions) : Result Unit := o.check.mapError fun f ↦ .config (.options f)

end ExecOptions

structure Statement where
  sql : String
  values : List Value
  options : ExecOptions

/-- The sum of numbers of rows. Such numbers have 64 bits, and a sum starts again behind the
largest. -/
def rowTotal (counts : List Nat) : Nat := total counts % Nat.pow 2 64

/-- What runs statements. A query yields rows, each of which may be an error instead; an update
yields the number of rows it changed, and a batch one such number for each of its rows. -/
structure Executor (σ : Type) where
  query : Statement → Action σ (List (Result Row))
  update : Statement → Action σ Nat
  updateBatch : String → List (List Value) → ExecOptions → Action σ (List Nat)

namespace Executor

variable {σ : Type}

def updateEach (update : Statement → Action σ Nat) (sql : String) (rows : List (List Value))
    (options : ExecOptions) : Action σ (List Nat) :=
  match rows with
  | [] => .ofResult (.ok [])
  | row :: rows =>
    Action.andThen (update ⟨sql, row, options⟩) fun n ↦
      Action.andThen (updateEach update sql rows options) fun ns ↦ .ofResult (.ok (n :: ns))

end Executor

end QueryCatalog
