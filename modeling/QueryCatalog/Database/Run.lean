import QueryCatalog.Database.Scope

namespace QueryCatalog.Database

inductive Step
  | insert (id : Value)
  | insertEach (ids : List Value)
  | deleteAll
  | idle
  /-- A scope around steps, which are followed by a failure if one is given. -/
  | around (options : TransactionOptions) (steps : List Step) (failure? : Option Error)
  /-- A scope that is given up after its steps, whatever their outcome. -/
  | abandon (options : TransactionOptions) (steps : List Step) (failure? : Option Error)
  /-- A step whose failure ends the steps it stands among. -/
  | required (step : Step)

inductive Reply
  | count (n : Nat)
  | counts (l : List Nat)
  | done
  deriving DecidableEq, Repr

inductive Record
  /-- The outcome, the records of the inner steps, and the table after the step. -/
  | mk (outcome : Result Reply) (inner : List Record) (after : Keys)

namespace Record

def outcome : Record → Result Reply
  | mk r _ _ => r

def inner : Record → List Record
  | mk _ l _ => l

def after : Record → Keys
  | mk _ _ keys => keys

end Record

def endOf (steps : Result Unit) (failure? : Option Error) : Result Unit :=
  match steps, failure? with
  | .error e, _ => .error e
  | .ok (), some e => .error e
  | .ok (), none => .ok ()

abbrev Recorded := Connection × List Record

def lift {α : Type} (m : Action Connection α) : Action Recorded α := fun s ↦
  match m s.1 with
  | (r, c) => (r, (c, s.2))

def recordedTransactions : Transactions Recorded Scope where
  start options := lift (transactions.start options)
  commit scope := lift (transactions.commit scope)
  rollback scope := lift (transactions.rollback scope)

namespace Step

def isRequired : Step → Bool
  | required _ => true
  | _ => false

def statement {α : Type} (m : Action Connection α) (reply : α → Reply) (c : Connection) :
    Record × Connection :=
  match m c with
  | (r, c) => (.mk (r.map reply) [] c.keys, c)

def scope (m : Action Recorded Unit) (c : Connection) : Record × Connection :=
  match m (c, []) with
  | (r, (c, records)) => (.mk (r.map fun _ ↦ .done) records c.keys, c)

mutual

def run : Step → Connection → Record × Connection
  | insert id, c => statement (Connection.insert id) .count c
  | insertEach ids, c => statement (Connection.insertEach ids) .counts c
  | deleteAll, c => statement Connection.deleteAll .count c
  | idle, c => (.mk (.ok .done) [] c.keys, c)
  | around options steps failure?, c =>
    scope (recordedTransactions.around options fun s ↦ runInner steps failure? s.1) c
  | abandon options steps failure?, c =>
    scope (recordedTransactions.aroundAbandoned options fun s ↦
      runInner steps failure? s.1) c
  | required step, c => run step c

def runInner (steps : List Step) (failure? : Option Error) (c : Connection) :
    Result Unit × Recorded :=
  match runAll steps c with
  | ((records, r), c) => (endOf r failure?, (c, records))

def runAll : List Step → Connection → (List Record × Result Unit) × Connection
  | [], c => (([], .ok ()), c)
  | step :: steps, c =>
    match run step c with
    | (record, c) =>
      match step.isRequired, record.outcome with
      | true, .error e => (([record], .error e), c)
      | _, _ =>
        match runAll steps c with
        | ((records, r), c) => ((record :: records, r), c)

end

end Step

end QueryCatalog.Database
