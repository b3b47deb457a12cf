import QueryCatalog.Binding.Plan
import QueryCatalog.Counting
import QueryCatalog.Execution.Statement

namespace QueryCatalog.Batch

def unitOfEntity (bindAs? : Option String) (shared : Context) (entity : Value) : Result Context :=
  match bindAs? with
  | some name => .ok (shared.setParam name entity)
  | none => (Context.ofEntity entity).map fun c ↦ shared.setParams c.params.entries

def unitsOfEntities (entities : List Value) (bindAs? : Option String) (shared : Context) :
    Result (List Context) :=
  entities.mapM (unitOfEntity bindAs? shared)

abbrev Column := String × List Value

/-- The parameters that hold one value for each unit: lists that are not passed as one value. -/
def columns (args : Context) (opts : BindOptions) : List Column :=
  (args.params.entries.filter fun e ↦ !opts.singleParameters.contains e.1).filterMap fun e ↦
    e.2.items?.map (e.1, ·)

def mismatch? (columns : List Column) (expected : Nat) : Option Column :=
  columns.find? fun c ↦ c.2.length != expected

def columnsAt (columns : List Column) (i : Nat) : List (String × Value) :=
  columns.map fun c ↦ (c.1, c.2[i]?.getD .null)

/-- Unit `i` takes item `i` of every column and shares all other arguments. Without a column there
is one unit. -/
def unitsOfColumns (args : Context) (opts : BindOptions) : Result (List Context) :=
  match columns args opts with
  | [] => .ok [args]
  | first :: rest =>
    let expected := first.2.length
    match mismatch? (first :: rest) expected with
    | some c => .error (.batchCardinality c.1 expected c.2.length)
    | none =>
      .ok ((List.range expected).map fun i ↦ args.setParams (columnsAt (first :: rest) i))

inductive Outcome
  | applied (rows : Nat)
  | failed (chunk : Nat)
  | notAttempted
  deriving DecidableEq, Repr

structure Failure where
  chunk : Nat
  units : Span
  error : Error

structure Report where
  outcomes : List Outcome := []
  chunks : Nat := 0
  failure? : Option Failure := none

def Outcome.rows : Outcome → Nat
  | .applied n => n
  | _ => 0

namespace Report

def isSuccess (r : Report) : Bool := r.failure?.isNone

def rowsAffected (r : Report) : Nat := rowTotal (r.outcomes.map Outcome.rows)

def toResult (r : Report) : Result (List Nat) :=
  match r.failure? with
  | some f =>
    .error (.batchChunk f.chunk f.units ⟨f.units.start, r.outcomes.length⟩ f.error)
  | none => .ok (r.outcomes.map Outcome.rows)

end Report

variable {σ : Type}

/-- Sends plans with one text in one call. The driver must answer every row. -/
def sendRun (x : Executor σ) (options : ExecOptions) (run : List Plan) : Action σ (List Nat) :=
  match run with
  | [] => .ofResult (.ok [])
  | p :: _ =>
    Action.andThen (x.updateBatch p.sql (run.map Plan.values) options) fun counts ↦
      .ofResult (if counts.length = run.length then .ok counts
        else .error (.countMismatch counts.length run.length))

def sendRuns (x : Executor σ) (options : ExecOptions) : List (List Plan) → Action σ (List Nat)
  | [] => .ofResult (.ok [])
  | run :: runs =>
    Action.andThen (sendRun x options run) fun counts ↦
      Action.andThen (sendRuns x options runs) fun more ↦ .ofResult (.ok (counts ++ more))

/-- Neighbours with the same text, together. -/
def runsOf (plans : List Plan) : List (List Plan) := plans.splitBy fun p q ↦ p.sql == q.sql

def sendChunk (x : Executor σ) (options : ExecOptions) (plans : List Plan) :
    Action σ (List Nat) :=
  sendRuns x options (runsOf plans)

def sendChunks (x : Executor σ) (options : ExecOptions) (plans : List Plan) (n : Nat) :
    List Span → σ → (List Outcome × Option Failure) × σ
  | [], s => (([], none), s)
  | units :: rest, s =>
    match sendChunk x options (units.slice plans) s with
    | (.ok counts, s) =>
      let ((outcomes, failure?), s) := sendChunks x options plans (n + 1) rest s
      ((counts.map .applied ++ outcomes, failure?), s)
    | (.error e, s) =>
      let failed := List.replicate units.length (Outcome.failed n)
      let left := rest.flatMap fun u ↦ List.replicate u.length .notAttempted
      ((failed ++ left, some ⟨n, units, e⟩), s)

def bindUnits (resolver : Resolver) (t : Template) (units : List Context) (opts : BindOptions)
    (now : Int) : Result (List Plan) :=
  units.mapM fun ctx ↦ Binding.bind resolver t ctx opts now

def execute (resolver : Resolver) (x : Executor σ) (options : ExecOptions) (t : Template)
    (units : List Context) (opts : BindOptions) (batchSize : Nat) (now : Int) :
    Action σ Report := fun s ↦
  if batchSize = 0 then (.error (.config .zeroBatchSize), s)
  else if units.isEmpty then (.ok {}, s)
  else
    match bindUnits resolver t units opts now with
    | .error e => (.error e, s)
    | .ok plans =>
      let ranges := chunkRanges plans.length batchSize
      let ((outcomes, failure?), s) := sendChunks x options plans 0 ranges s
      (.ok ⟨outcomes, ranges.length, failure?⟩, s)

def executeColumns (resolver : Resolver) (x : Executor σ) (options : ExecOptions) (t : Template)
    (args : Context) (opts : BindOptions) (batchSize : Nat) (now : Int) :
    Action σ Report :=
  Action.andThen (.ofResult (unitsOfColumns args opts)) fun units ↦
    execute resolver x options t units opts batchSize now

end QueryCatalog.Batch
