import QueryCatalog.Catalog.Session
import QueryCatalog.Proofs.Batch.Report
import QueryCatalog.Proofs.Execution.Hooks

namespace QueryCatalog

variable {σ τ α : Type}

namespace Session

/-- A recorded call has this outcome, leaves this cache and state, and notes these events, whatever
was noted before. -/
def Runs (m : Action (Session (Traced σ)) α) (cache? : Option CatalogCache) (clock : Clock) (s : σ)
    (r : Result α) (cache?' : Option CatalogCache) (s' : σ) (noted : List Event) : Prop :=
  ∀ events, m ⟨cache?, clock, ⟨s, events⟩⟩ = (r, ⟨cache?', clock, ⟨s', noted.reverse ++ events⟩⟩)

variable {cache? cache?' : Option CatalogCache} {clock : Clock} {s s' t t' : σ} {r : Result α}
  {noted : List Event}

theorem runs_lift {m : Action (Traced σ) α} (h : Traced.Runs m s r s' noted)
    (cache? : Option CatalogCache) (clock : Clock) :
    Runs (Session.lift m) cache? clock s r cache? s' noted := by
  intro events
  simp only [Session.lift, h events]

theorem runs_writing {m : Action (Traced σ) α} (h : Traced.Runs m s r s' noted) (method : String)
    (cache? : Option CatalogCache) (clock : Clock) :
    Runs (Session.writing method m) cache? clock s r (cache?.map (·.afterWrite method)) s'
      noted := by
  intro events
  cases cache? with
  | none => exact runs_lift h none clock events
  | some cache =>
    simp only [writing, withCache, Cached.write, Cached.lift, h events, Option.map_some]

section Hooks

open Interceptor

variable {call : Invocation} {hooks front : List (Interceptor σ)} {i : Interceptor σ} {e : Error}

theorem enters_liftHook (h : Enters call hooks s t) (cache? : Option CatalogCache) (clock : Clock) :
    Enters call (hooks.map liftHook) ⟨cache?, clock, s⟩ ⟨cache?, clock, t⟩ := by
  induction h with
  | inside s => exact .inside _
  | next hbefore _ ih => exact .next (by simp only [liftHook, Session.lift, hbefore]) ih

theorem refused_liftHook (h : Refused call hooks s front i e t) (cache? : Option CatalogCache)
    (clock : Clock) : Refused call (hooks.map liftHook) ⟨cache?, clock, s⟩ (front.map liftHook)
      (liftHook i) e ⟨cache?, clock, t⟩ := by
  obtain ⟨hfront, u, henters, hbefore⟩ := h
  refine ⟨by simpa using hfront.map liftHook, _, enters_liftHook henters cache? clock, ?_⟩
  simp only [liftHook, Session.lift, hbefore]

theorem leave_liftHook (hooks : List (Interceptor σ)) (r : Result α) (cache? : Option CatalogCache)
    (clock : Clock) (s : σ) : leave call (hooks.map liftHook) r ⟨cache?, clock, s⟩ =
      ⟨cache?, clock, leave call hooks r s⟩ := by
  induction hooks with
  | nil => rfl
  | cons i hooks ih =>
    rw [leave] at ih
    rw [List.map_cons, leave, List.foldr_cons, ih]
    cases r <;> rfl

theorem runs_enclose (henters : Enters call hooks s t) {work : Action (Session (Traced σ)) α}
    (hwork : Runs work cache? clock t r cache?' t' noted) :
    Runs (enclose call ((hooks.map Traced.interceptor).map liftHook) work) cache? clock s r
      cache?' (leave call hooks r t') (opening call hooks ++ noted ++ closing hooks r) := by
  intro events
  rw [enclose_of_enters (enters_liftHook (henters.recorded events) cache? clock) (hwork _),
    leave_liftHook, leave_recorded]
  simp only [List.reverse_append, List.append_assoc]

theorem runs_enclose_of_refused (h : Refused call hooks s front i e t)
    (work : Action (Session (Traced σ)) α) (cache? : Option CatalogCache) (clock : Clock) :
    Runs (enclose call ((hooks.map Traced.interceptor).map liftHook) work) cache? clock s
      (.error e) cache? (leave call front (.error e : Result α) t)
      (opening call (front ++ [i]) ++ closing front (.error e : Result α)) := by
  intro events
  rw [enclose_of_refused (refused_liftHook (h.recorded events) cache? clock), leave_liftHook,
    leave_recorded]
  simp only [List.reverse_append, List.append_assoc]

end Hooks

end Session

def Collaborators.recorded (x : Collaborators σ τ) (X : Executor (Traced σ)) :
    Collaborators (Traced σ) τ where
  executor := X
  transactions? := x.transactions?.map Traced.transactions
  hooks := x.hooks.map Traced.interceptor

def Collaborators.hooksFor (x : Collaborators σ τ) (call : Invocation) : List (Interceptor σ) :=
  x.hooks.filter (·.appliesTo call)

namespace Catalog

section Work

variable (c : Catalog) (x : Collaborators σ τ) (X : Executor (Traced σ)) (m : PreparedMethod)
  (args : Context) (units : List Context) (now : Int)

/-- What rows are as values: merged if the method says how, and otherwise one object each, up to a
row that could not be read. -/
inductive Yields : List (Result Row) → Result (List Value) → Prop
  | merged {spec : Merge.Spec} {rows : List (Result Row)} (hmerge : m.method.merge? = some spec) :
      Yields rows (Merge.mergeAll spec rows)
  | listed (rows : List Row) (hmerge : m.method.merge? = none) :
      Yields (rows.map .ok) (.ok (rows.map Row.toObject))
  | broken (before : List Row) (e : Error) (after : List (Result Row))
      (hmerge : m.method.merge? = none) : Yields (before.map .ok ++ .error e :: after) (.error e)

inductive Fetches (s : σ) : Result (List Value) → σ → List Event → Prop
  | unbound {e : Error} (hbind : c.bindMethod m args now = .error e) : Fetches s (.error e) s []
  | failed {plan : Plan} {e : Error} {s' : σ} (hbind : c.bindMethod m args now = .ok plan)
      (hquery : x.executor.query (statement m plan) s = (.error e, s')) :
      Fetches s (.error e) s' [.query (statement m plan)]
  | answered {plan : Plan} {rows : List (Result Row)} {r : Result (List Value)} {s' : σ}
      (hbind : c.bindMethod m args now = .ok plan)
      (hquery : x.executor.query (statement m plan) s = (.ok rows, s'))
      (hyields : Yields m rows r) : Fetches s r s' [.query (statement m plan)]

inductive SendsUnit (s : σ) : Result Nat → σ → List Event → Prop
  | unbound {e : Error} (hbind : c.bindMethod m args now = .error e) : SendsUnit s (.error e) s []
  | sent {plan : Plan} {r : Result Nat} {s' : σ} (hbind : c.bindMethod m args now = .ok plan)
      (hupdate : x.executor.update (statement m plan) s = (r, s')) :
      SendsUnit s r s' [.update (statement m plan)]

/-- A batch: nothing is sent if a unit does not bind. Otherwise its plans are sent in order, up to
the first call that fails, and the result is what the answers make of the units. -/
inductive SendsUnits (s : σ) : Result (List Nat) → σ → List Event → Prop
  | sizeless (hsize : m.method.batchSize = 0) :
      SendsUnits s (.error (.config .zeroBatchSize)) s []
  | empty (hsize : m.method.batchSize ≠ 0) (hunits : units = []) : SendsUnits s (.ok []) s []
  | unbound {e : Error} (hsize : m.method.batchSize ≠ 0) (hunits : units ≠ [])
      (hbind : Batch.bindUnits c.resolver m.template units m.method.bindOptions now = .error e) :
      SendsUnits s (.error e) s []
  | sent {plans : List Plan} {calls : List Batch.Call} {report : Batch.Report} {s' : σ}
      {sent : List Event} (hsize : m.method.batchSize ≠ 0) (hunits : units ≠ [])
      (hbind : Batch.bindUnits c.resolver m.template units m.method.bindOptions now = .ok plans)
      (hanswers : ∀ events, Batch.Answers X m.method.execution ⟨s, events⟩ calls
        ⟨s', sent.reverse ++ events⟩)
      (hinOrder : Batch.InOrder m.method.batchSize 0 plans calls)
      (htells : Batch.Tells m.method.batchSize plans calls report)
      (hstatements : ∀ event ∈ sent, event.isStatement = true) :
      SendsUnits s report.toResult s' sent

end Work

section Realizes

open Traced

variable {c : Catalog} {x : Collaborators σ τ} {X : Executor (Traced σ)}

theorem exists_split_rows (rows : List (Result Row)) : (∃ rs : List Row, rows = rs.map .ok) ∨
    ∃ (before : List Row) (e : Error) (after : List (Result Row)),
      rows = before.map .ok ++ .error e :: after := by
  induction rows with
  | nil => exact .inl ⟨[], rfl⟩
  | cons row rows ih =>
    cases row with
    | error e => exact .inr ⟨[], e, rows, rfl⟩
    | ok r =>
      rcases ih with ⟨rs, rfl⟩ | ⟨before, e, after, rfl⟩
      · exact .inl ⟨r :: rs, rfl⟩
      · exact .inr ⟨r :: before, e, after, rfl⟩

theorem exists_yields (m : PreparedMethod) (rows : List (Result Row)) : ∃ r, Yields m rows r := by
  cases hmerge : m.method.merge? with
  | some spec => exact ⟨_, .merged hmerge⟩
  | none =>
    rcases exists_split_rows rows with ⟨rs, rfl⟩ | ⟨before, e, after, rfl⟩
    · exact ⟨_, .listed rs hmerge⟩
    · exact ⟨_, .broken before e after hmerge⟩

theorem Yields.valuesOf_eq {m : PreparedMethod} {rows : List (Result Row)} {r : Result (List Value)}
    (h : Yields m rows r) : valuesOf m rows = r := by
  cases h with
  | merged hmerge => rw [valuesOf, hmerge]
  | listed rs hmerge =>
    rw [valuesOf, hmerge, List.mapM_map]
    exact Outcome.mapM_eq_map fun _ _ ↦ rfl
  | broken before e after hmerge =>
    rw [valuesOf, hmerge]
    refine Outcome.mapM_eq_error_iff.mpr ⟨before.map .ok, .error e, after, rfl, ?_, rfl⟩
    exact List.forall_mem_map.mpr fun r _ ↦ ⟨r.toObject, rfl⟩

theorem realizes_fetch (hX : Notes X x.executor) (m : PreparedMethod) (args : Context) (now : Int) :
    Realizes (c.fetch (x.recorded X) m args now) (Fetches c x m args now) where
  total s := by
    cases hbind : c.bindMethod m args now with
    | error e => exact ⟨_, _, _, .unbound hbind⟩
    | ok plan =>
      cases hquery : x.executor.query (statement m plan) s with
      | mk r s' =>
        cases r with
        | error e => exact ⟨_, _, _, .failed hbind hquery⟩
        | ok rows =>
          obtain ⟨r, hyields⟩ := exists_yields m rows
          exact ⟨_, _, _, .answered hbind hquery hyields⟩
  runs {s _ _ _} h := by
    rw [fetch]
    cases h with
    | unbound hbind =>
      rw [hbind]
      exact (Runs.ofResult _ s).andThen_error
    | failed hbind hquery =>
      rw [hbind]
      exact (Runs.ofResult _ s).andThen_ok (hX.query hquery).andThen_error
    | answered hbind hquery hyields =>
      rw [hbind]
      refine (Runs.ofResult _ s).andThen_ok ((hX.query hquery).andThen_ok ?_)
      rw [hyields.valuesOf_eq]
      exact .ofResult _ _

theorem realizes_send (hX : Notes X x.executor) (m : PreparedMethod) (args : Context) (now : Int) :
    Realizes (c.send (x.recorded X) m args now) (SendsUnit c x m args now) where
  total s := by
    cases hbind : c.bindMethod m args now with
    | error e => exact ⟨_, _, _, .unbound hbind⟩
    | ok plan => exact ⟨_, _, _, .sent hbind rfl⟩
  runs {s _ _ _} h := by
    rw [send]
    cases h with
    | unbound hbind =>
      rw [hbind]
      exact (Runs.ofResult _ s).andThen_error
    | sent hbind hupdate =>
      rw [hbind]
      exact (Runs.ofResult _ s).andThen_ok (hX.update hupdate)

theorem realizes_sendUnits (hX : Notes X x.executor) (m : PreparedMethod) (units : List Context)
    (now : Int) : Realizes (c.sendUnits (x.recorded X) m units now)
      (SendsUnits c X m units now) where
  total s := by
    by_cases hsize : m.method.batchSize = 0
    · exact ⟨_, _, _, .sizeless hsize⟩
    by_cases hunits : units = []
    · exact ⟨_, _, _, .empty hsize hunits⟩
    cases hbind : Batch.bindUnits c.resolver m.template units m.method.bindOptions now with
    | error e => exact ⟨_, _, _, .unbound hsize hunits hbind⟩
    | ok plans =>
      obtain ⟨report, calls, t, hanswers, -, -, hinOrder, htells⟩ :=
        Batch.exists_report c.resolver X m.method.execution m.template units m.method.bindOptions
          now hunits (Nat.pos_of_ne_zero hsize) hbind ⟨s, []⟩
      obtain ⟨s', sent, hstatements, hanswers⟩ := exists_answers hX hanswers
      exact ⟨_, _, _, .sent hsize hunits hbind hanswers hinOrder htells hstatements⟩
  runs {s _ _ _} h events := by
    rw [sendUnits, Action.andThen]
    cases h with
    | sizeless hsize => simp [Batch.execute, hsize]
    | empty hsize hunits =>
      simp [Batch.execute, hsize, hunits, Action.ofResult, Batch.Report.toResult]
    | unbound hsize hunits hbind => simp [Batch.execute, hsize, hunits, hbind]
    | sent hsize hunits hbind hanswers hinOrder htells hstatements =>
      obtain ⟨report', calls', t, hanswers', hrun, -, hinOrder', htells'⟩ :=
        Batch.exists_report c.resolver X m.method.execution m.template units m.method.bindOptions
          now hunits (Nat.pos_of_ne_zero hsize) hbind ⟨s, events⟩
      -- The executor leaves no choice of the calls, and the calls none of the result.
      obtain ⟨rfl, rfl⟩ := hinOrder.calls_eq hinOrder' (hanswers events) hanswers' htells.ended
        htells'.ended
      simp [Collaborators.recorded, hrun, Action.ofResult, htells'.toResult_eq htells]

theorem exists_transactional (m : PreparedMethod) {W : Action (Traced σ) α} {work : Work σ α}
    (hW : Realizes W work) (s : σ) :
    ∃ r s' core, Transacts x.transactions? m.method.transaction? work s r s' core ∧
      Traced.Runs (transactional (x.recorded X) m W) s r s' core := by
  have hrecorded : (x.recorded X).transactions? = x.transactions?.map Traced.transactions := rfl
  rw [transactional, hrecorded]
  cases m.method.transaction? with
  | none =>
    obtain ⟨r, s', sent, hwork⟩ := hW.total s
    exact ⟨r, s', sent, (Core.plain rfl hwork).transacts hW, hW.runs hwork⟩
  | some options =>
    cases x.transactions? with
    | none => exact ⟨_, _, _, (Core.impossible rfl rfl).transacts hW, .ofResult _ s⟩
    | some t =>
      obtain ⟨r, s', core, hcore, hruns⟩ := exists_around t options hW s
      exact ⟨r, s', core, hcore.transacts hW, hruns⟩

end Realizes

/-- What stands between the hooks of a read: nothing but a lookup if the cache answers; otherwise
the core, behind which a result is stored and an error is not. -/
inductive Reads (cached : Bool) (key : CacheKey) (clock : Clock)
    (core : Result (List Value) → σ → List Event → Prop) (s : σ) :
    Option CatalogCache → Result (List Value) → Option CatalogCache → σ → List Event → Prop
  | hit {cache cache' : CatalogCache} {a : List Value} (hcached : cached = true)
      (hlookup : cache.lookup key clock.time = (some a, cache')) :
      Reads cached key clock core s (some cache) (.ok a) (some cache') s []
  | stored {cache cache' : CatalogCache} {a : List Value} {s' : σ} {noted : List Event}
      (hcached : cached = true) (hlookup : cache.lookup key clock.time = (none, cache'))
      (hcore : core (.ok a) s' noted) :
      Reads cached key clock core s (some cache) (.ok a)
        (some (cache'.countMiss.keep key a cache'.generation clock.time)) s' noted
  | failed {cache cache' : CatalogCache} {e : Error} {s' : σ} {noted : List Event}
      (hcached : cached = true) (hlookup : cache.lookup key clock.time = (none, cache'))
      (hcore : core (.error e) s' noted) :
      Reads cached key clock core s (some cache) (.error e) (some cache'.countMiss) s' noted
  | uncached {cache? : Option CatalogCache} {r : Result (List Value)} {s' : σ} {noted : List Event}
      (huncached : cached = false ∨ cache? = none) (hcore : core r s' noted) :
      Reads cached key clock core s cache? r cache? s' noted

section Calls

variable {c : Catalog} {x : Collaborators σ τ} {X : Executor (Traced σ)}

theorem exists_reading {cached : Bool} {key : CacheKey} {clock : Clock} {s : σ}
    {W : Action (Traced σ) (List Value)} {core : Result (List Value) → σ → List Event → Prop}
    (hW : ∃ r s' noted, core r s' noted ∧ Traced.Runs W s r s' noted)
    (cache? : Option CatalogCache) : ∃ r cache?' s' noted,
      Reads cached key clock core s cache? r cache?' s' noted ∧
      Session.Runs (if cached then Session.reading key W else Session.lift W) cache? clock s r
        cache?' s' noted := by
  obtain ⟨r, s', noted, hcore, hruns⟩ := hW
  cases cached with
  | false => exact ⟨r, cache?, s', noted, .uncached (.inl rfl) hcore, Session.runs_lift hruns _ _⟩
  | true =>
    cases cache? with
    | none => exact ⟨r, none, s', noted, .uncached (.inr rfl) hcore, Session.runs_lift hruns _ _⟩
    | some cache =>
      cases hlookup : cache.lookup key clock.time with
      | mk answer? cache' =>
        cases answer? with
        | some a =>
          refine ⟨_, _, _, _, .hit rfl hlookup, fun events ↦ ?_⟩
          simp [Session.reading, Session.withCache, Cached.read, hlookup]
        | none =>
          cases r with
          | ok a =>
            refine ⟨_, _, _, _, .stored rfl hlookup hcore, fun events ↦ ?_⟩
            simp [Session.reading, Session.withCache, Cached.read, hlookup, Cached.lift,
              hruns events]
          | error e =>
            refine ⟨_, _, _, _, .failed rfl hlookup hcore, fun events ↦ ?_⟩
            simp [Session.reading, Session.withCache, Cached.read, hlookup, Cached.lift,
              hruns events]

theorem intercepted_recorded (x : Collaborators σ τ) (X : Executor (Traced σ)) (call : Invocation)
    (work : Action (Session (Traced σ)) α) : intercepted (x.recorded X) call work =
      Interceptor.enclose call (((x.hooksFor call).map Traced.interceptor).map Session.liftHook)
        work := by
  rw [intercepted, Interceptor.invoke, Collaborators.recorded, Collaborators.hooksFor,
    ← Interceptor.map_recorded_filter, List.filter_map]
  rfl

theorem runs_intercepted {call : Invocation} {s t t' : σ}
    (henters : Interceptor.Enters call (x.hooksFor call) s t) {work : Action (Session (Traced σ)) α}
    {cache? cache?' : Option CatalogCache} {clock : Clock} {r : Result α} {noted : List Event}
    (hwork : Session.Runs work cache? clock t r cache?' t' noted) :
    Session.Runs (intercepted (x.recorded X) call work) cache? clock s r cache?'
      (Interceptor.leave call (x.hooksFor call) r t')
      (Interceptor.opening call (x.hooksFor call) ++ noted ++
        Interceptor.closing (x.hooksFor call) r) := by
  rw [intercepted_recorded]
  exact Session.runs_enclose henters hwork

end Calls

/-- The hooks of a call frame what is inside of them: all of them before it, and all of them behind
it with its outcome. -/
def Framed (x : Collaborators σ τ) (call : Invocation) (cache? : Option CatalogCache)
    (clock : Clock) (s : σ) (run : Action (Session (Traced σ)) α)
    (inside : Result α → Option CatalogCache → σ → List Event → Prop) : Prop :=
  ∃ r cache?' s' core, inside r cache?' s' core ∧
    Session.Runs run cache? clock s r cache?' (Interceptor.leave call (x.hooksFor call) r s')
      (Interceptor.opening call (x.hooksFor call) ++ core ++
        Interceptor.closing (x.hooksFor call) r)

/-- The trace of every call that its hooks let pass. Inside of them a read is answered from the
cache or by its query, and a write is sent and may empty the cache; both in the transaction that the
method declares. -/
theorem calls_are_framed (c : Catalog) (x : Collaborators σ τ) {X : Executor (Traced σ)}
    (hX : Traced.Notes X x.executor) (call : Invocation) (now : Int) (cache? : Option CatalogCache)
    (clock : Clock) {s inner : σ} (henters : Interceptor.Enters call (x.hooksFor call) s inner) :
    (∀ m args, c.readMethod call.method = .ok m →
      Framed x call cache? clock s (c.query (x.recorded X) call args now) fun r cache?' s' core ↦
        Reads m.method.cached (.ofContext call.method args) clock
          (Traced.Transacts x.transactions? m.method.transaction? (Fetches c x m args now) inner)
          inner cache? r cache?' s' core) ∧
    (∀ m args, c.writeMethod call.method = .ok m → m.method.isBatch = false →
      Framed x call cache? clock s (c.update (x.recorded X) call args now) fun r cache?' s' core ↦
        cache?' = cache?.map (·.afterWrite call.method) ∧
          Traced.Transacts x.transactions? m.method.transaction? (SendsUnit c x m args now) inner r
            s' core) ∧
    ∀ m units, c.writeMethod call.method = .ok m →
      Framed x call cache? clock s (c.batch (x.recorded X) call units now) fun r cache?' s' core ↦
        cache?' = cache?.map (·.afterWrite call.method) ∧
          Traced.Transacts x.transactions? m.method.transaction? (SendsUnits c X m units now) inner
            r s' core := by
  refine ⟨?_, ?_, ?_⟩
  · intro m args hm
    obtain ⟨r, cache?', s', core, hreads, hruns⟩ :=
      exists_reading (exists_transactional m (realizes_fetch hX m args now) inner) cache?
    rw [query, hm]
    exact ⟨r, cache?', s', core, hreads, runs_intercepted henters hruns⟩
  · intro m args hm hbatch
    obtain ⟨r, s', core, htransacts, hruns⟩ :=
      exists_transactional m (realizes_send hX m args now) inner
    rw [update, hm]
    simp only [hbatch]
    exact ⟨r, _, s', core, ⟨rfl, htransacts⟩,
      runs_intercepted henters (Session.runs_writing hruns call.method cache? clock)⟩
  · intro m units hm
    obtain ⟨r, s', core, htransacts, hruns⟩ :=
      exists_transactional m (realizes_sendUnits hX m units now) inner
    rw [batch, hm]
    exact ⟨r, _, s', core, ⟨rfl, htransacts⟩,
      runs_intercepted henters (Session.runs_writing hruns call.method cache? clock)⟩

section Ledger

def ledger : Catalog where
  name := "dao"
  methods := KeyMap.ofList
    [("save", ⟨{ sql := "save", kind := .write, transaction? := some {} },
      ⟨"save", [.literal "save"]⟩⟩)]
  resolver := .byName

/-- Every statement, every end of a transaction and every hook counts; updates and rollbacks
fail. -/
def fragile : Collaborators Nat Unit where
  executor :=
    { query := fun _ n ↦ (.ok [], n + 1)
      update := fun _ n ↦ (.error (.execution "locked"), n + 1)
      updateBatch := fun _ _ _ n ↦ (.error (.execution "locked"), n + 1) }
  transactions? := some
    { start := fun _ n ↦ (.ok (), n)
      commit := fun _ n ↦ (.ok (), n + 1)
      rollback := fun _ n ↦ (.error (.transaction "lost"), n + 1) }
  hooks :=
    let hook name externalOnly : Interceptor Nat :=
      ⟨name, externalOnly, fun _ n ↦ (.ok (), n + 1), fun _ n ↦ n + 1, fun _ _ n ↦ n + 1⟩
    [hook "outer" false, hook "door" true, hook "inner" false]

/-- A call from inside passes one hook by. Its update fails, and so does the rollback behind it. -/
theorem failed_save_is_framed :
    Framed fragile ⟨"save", false⟩ none ⟨0⟩ 0
        (ledger.update (fragile.recorded (Traced.executorByRow fragile.executor)) ⟨"save", false⟩
          .empty 0) (fun r cache?' s' core ↦
        cache?' = none ∧ ∃ m, ledger.writeMethod "save" = .ok m ∧
          Traced.Transacts fragile.transactions? m.method.transaction?
            (SendsUnit ledger fragile m .empty 0) 2 r s' core) ∧
      ∃ events, ledger.update (fragile.recorded (Traced.executorByRow fragile.executor))
          ⟨"save", false⟩ .empty 0 ⟨none, ⟨0⟩, ⟨0, []⟩⟩ =
            (.error (.execution "locked"), ⟨none, ⟨0⟩, ⟨6, events⟩⟩) ∧
        events.map Event.isStatement = [false, false, false, true, false, false, false] := by
  have henters : Interceptor.Enters ⟨"save", false⟩ (fragile.hooksFor ⟨"save", false⟩) 0 2 :=
    .next rfl (.next rfl (.inside 2))
  have hmethod : ledger.writeMethod "save" =
      .ok ⟨{ sql := "save", kind := .write, transaction? := some {} },
        ⟨"save", [.literal "save"]⟩⟩ := rfl
  obtain ⟨-, hupdate, -⟩ := calls_are_framed ledger fragile (Traced.notes_executorByRow _)
    ⟨"save", false⟩ 0 none ⟨0⟩ henters
  obtain ⟨r, cache?', s', core, ⟨hcache, htransacts⟩, hruns⟩ := hupdate _ .empty hmethod rfl
  exact ⟨⟨r, cache?', s', core, ⟨hcache, _, hmethod, htransacts⟩, hruns⟩, _, rfl, rfl⟩

end Ledger

end Catalog

end QueryCatalog
