import QueryCatalog.Catalog.Session
import QueryCatalog.Proofs.Cache.Contents
import QueryCatalog.Proofs.Outcome

namespace QueryCatalog

theorem Binding.bind_eq_of_untimed {opts : BindOptions} (h : opts.timestamped = false)
    (resolver : Resolver) (t : Template) (ctx : Context) (now now' : Int) :
    bind resolver t ctx opts now = bind resolver t ctx opts now' := by
  have hrender : render resolver ctx opts now = render resolver ctx opts now' := by
    funext token
    cases token <;> simp [render, resolve, base, h]
  simp only [bind, renderAll, hrender]

namespace Catalog

inductive Call
  | query (call : Invocation) (args : Context) (now : Int)
  | update (call : Invocation) (args : Context) (now : Int)
  | batch (call : Invocation) (units : List Context) (now : Int)
  | setClock (clock : Clock)

inductive Reply
  | rows (r : Result (List Value))
  | count (r : Result Nat)
  | counts (r : Result (List Nat))
  | done

variable {σ τ δ α : Type}

def reply (c : Catalog) (x : Collaborators σ τ) : Call → Session σ → Reply × Session σ
  | .query call args now, s =>
    match c.query x call args now s with
    | (r, s) => (.rows r, s)
  | .update call args now, s =>
    match c.update x call args now s with
    | (r, s) => (.count r, s)
  | .batch call units now, s =>
    match c.batch x call units now s with
    | (r, s) => (.counts r, s)
  | .setClock clock, s => (.done, { s with clock := clock })

def replies (c : Catalog) (x : Collaborators σ τ) : List Call → Session σ → List (Reply × σ)
  | [], _ => []
  | call :: calls, s =>
    match c.reply x call s with
    | (r, s) => (r, s.state) :: replies c x calls s

def queried (calls : List Call) : List (String × Context) :=
  calls.filterMap fun
    | .query call args _ => some (call.method, args)
    | _ => none

/-- What a cache relies on. `database` is the part of the state that statements see; the hooks have
the rest. -/
structure Cacheable (c : Catalog) (x : Collaborators σ τ) (filters : List RefreshFilter)
    (database : σ → δ) : Prop where
  query_state : ∀ st s, (x.executor.query st s).2 = s
  query_outcome : ∀ st s s', database s = database s' →
    (x.executor.query st s).1 = (x.executor.query st s').1
  before_database : ∀ i ∈ x.hooks, ∀ call s, database (i.before call s).2 = database s
  after_database : ∀ i ∈ x.hooks, ∀ call s, database (i.after call s) = database s
  onError_database : ∀ i ∈ x.hooks, ∀ call e s, database (i.onError call e s) = database s
  /-- Failed or not, a write that no filter names changes nothing. -/
  write_database : ∀ name m, c.writeMethod name = .ok m →
    RefreshFilter.anyMatches filters name = false →
    (∀ args now s, database (c.send x m args now s).2 = database s) ∧
      ∀ units now s, database (c.sendUnits x m units now s).2 = database s
  no_transaction : ∀ name m, c.method name = .ok m → m.method.transaction? = none
  read_untimed : ∀ name m, c.readMethod name = .ok m → m.method.cached = true →
    m.method.timestamped = false

/-- Every stored result of a query is what the database would answer now. -/
def Fresh (c : Catalog) (x : Collaborators σ τ) (database : σ → δ)
    (asked : List (String × Context)) (cache : CatalogCache) (s : σ) : Prop :=
  ∀ name args, (name, args) ∈ asked → ∀ m, c.readMethod name = .ok m → m.method.cached = true →
    ∀ a, cache.Holds (.ofContext name args) a →
      ∀ now s', database s' = database s → (c.fetch x m args now s').1 = .ok a

/-- A session with a cache whose results are fresh, and one without, in the same state. -/
structure Matches (c : Catalog) (x : Collaborators σ τ) (filters : List RefreshFilter)
    (database : σ → δ) (asked : List (String × Context)) (s t : Session σ) : Prop where
  cached : ∃ cache, s.cache? = some cache ∧ cache.filters = filters ∧
    Fresh c x database asked cache s.state
  plain : t.cache? = none
  state_eq : s.state = t.state

def Respects (R : Session σ → Session σ → Prop) (m : Action (Session σ) α) : Prop :=
  ∀ s t, R s t → (m s).1 = (m t).1 ∧ R (m s).2 (m t).2

theorem Respects.outcome {R : Session σ → Session σ → Prop} {m : Action (Session σ) α}
    (hm : Respects R m) {s t : Session σ} (h : R s t) :
    ∃ r s' t', m s = (r, s') ∧ m t = (r, t') ∧ R s' t' := by
  obtain ⟨he, hR⟩ := hm s t h
  exact ⟨(m s).1, (m s).2, (m t).2, rfl, Prod.ext he.symm rfl, hR⟩

theorem Respects.ofResult {R : Session σ → Session σ → Prop} (r : Result α) :
    Respects R (.ofResult r) := fun _ _ h ↦ ⟨rfl, h⟩

theorem Respects.andThen {β : Type} {R : Session σ → Session σ → Prop}
    {m : Action (Session σ) α} {f : α → Action (Session σ) β} (hm : Respects R m)
    (hf : ∀ a, Respects R (f a)) : Respects R (Action.andThen m f) := by
  intro s t h
  obtain ⟨r, s', t', hs, ht, hR⟩ := hm.outcome h
  simp only [Action.andThen, hs, ht]
  cases r with
  | ok a => exact hf a s' t' hR
  | error e => exact ⟨rfl, hR⟩

theorem Respects.enclose {R : Session σ → Session σ → Prop} {call : Invocation}
    {hooks : List (Interceptor (Session σ))} {work : Action (Session σ) α}
    (hbefore : ∀ i ∈ hooks, Respects R (i.before call))
    (hafter : ∀ i ∈ hooks, ∀ s t, R s t → R (i.after call s) (i.after call t))
    (hError : ∀ i ∈ hooks, ∀ e s t, R s t → R (i.onError call e s) (i.onError call e t))
    (hwork : Respects R work) : Respects R (Interceptor.enclose call hooks work) := by
  induction hooks with
  | nil => exact hwork
  | cons i hooks ih =>
    have hrest := ih (fun j hj ↦ hbefore j (List.mem_cons_of_mem _ hj))
      (fun j hj ↦ hafter j (List.mem_cons_of_mem _ hj))
      (fun j hj ↦ hError j (List.mem_cons_of_mem _ hj))
    intro s t h
    obtain ⟨r, s', t', hs, ht, hR⟩ := (hbefore i List.mem_cons_self).outcome h
    cases r with
    | error e =>
      simp only [Interceptor.enclose, hs, ht]
      exact ⟨trivial, hR⟩
    | ok u =>
      obtain ⟨r, s'', t'', hs', ht', hR⟩ := hrest.outcome hR
      simp only [Interceptor.enclose, hs, ht, hs', ht']
      cases r with
      | ok a => exact ⟨rfl, hafter i List.mem_cons_self _ _ hR⟩
      | error e => exact ⟨rfl, hError i List.mem_cons_self e _ _ hR⟩

section

variable {c : Catalog} {x : Collaborators σ τ} {filters : List RefreshFilter} {database : σ → δ}
  {asked : List (String × Context)}

theorem method_of_readMethod {name : String} {m : PreparedMethod}
    (h : c.readMethod name = .ok m) : c.method name = .ok m := by
  simp only [readMethod, bind, Except.bind, pure, Except.pure] at h
  split at h
  · cases h
  · rename_i m' hm
    split at h
    · rwa [hm]
    · cases h

theorem method_of_writeMethod {name : String} {m : PreparedMethod}
    (h : c.writeMethod name = .ok m) : c.method name = .ok m ∧ m.method.kind = .write := by
  simp only [writeMethod, bind, Except.bind, pure, Except.pure] at h
  split at h
  · cases h
  · rename_i m' hm
    split at h
    · rename_i hkind
      cases h
      exact ⟨hm, hkind⟩
    · cases h

theorem transactional_of_none {m : PreparedMethod} (h : m.method.transaction? = none)
    (work : Action σ α) : transactional x m work = work := by
  simp only [transactional, h]

theorem fetch_state (h : Cacheable c x filters database) (m : PreparedMethod) (args : Context)
    (now : Int) (s : σ) : (c.fetch x m args now s).2 = s := by
  unfold fetch Action.andThen Action.ofResult
  cases c.bindMethod m args now with
  | error e => rfl
  | ok plan =>
    have hs := h.query_state (statement m plan) s
    cases hq : x.executor.query (statement m plan) s with
    | mk r s' =>
      rw [hq] at hs
      cases r <;> simp only [hq] <;> exact hs

theorem fetch_outcome (h : Cacheable c x filters database) {m : PreparedMethod}
    (hm : m.method.timestamped = false) (args : Context) (now now' : Int) {s s' : σ}
    (hs : database s = database s') :
    (c.fetch x m args now s).1 = (c.fetch x m args now' s').1 := by
  have hbind : c.bindMethod m args now = c.bindMethod m args now' :=
    Binding.bind_eq_of_untimed hm c.resolver m.template args now now'
  unfold fetch Action.andThen Action.ofResult
  rw [hbind]
  cases c.bindMethod m args now' with
  | error e => rfl
  | ok plan =>
    have hr := h.query_outcome (statement m plan) s s' hs
    cases hq : x.executor.query (statement m plan) s with
    | mk r t =>
      cases hq' : x.executor.query (statement m plan) s' with
      | mk r' t' =>
        rw [hq, hq'] at hr
        cases hr
        cases r <;> simp [hq, hq']

theorem Fresh.of_le {cache cache' : CatalogCache} {s s' : σ}
    (h : Fresh c x database asked cache s)
    (hholds : ∀ k a, cache'.Holds k a → cache.Holds k a) (hs : database s' = database s) :
    Fresh c x database asked cache' s' :=
  fun name args hasked m hm hcached a ha now t ht ↦
    h name args hasked m hm hcached a (hholds _ a ha) now t (ht.trans hs)

theorem respects_lift {m : Action σ α} (hm : ∀ s, database (m s).2 = database s) :
    Respects (Matches c x filters database asked) (Session.lift m) := by
  rintro s t ⟨⟨cache, hcache, hfilters, hfresh⟩, hplain, hstate⟩
  refine ⟨by simp only [Session.lift, hstate], ⟨cache, hcache, hfilters, ?_⟩, hplain, ?_⟩
  · exact hfresh.of_le (fun _ _ ha ↦ ha) (hm s.state)
  · simp only [Session.lift, hstate]

theorem respects_intercepted (h : Cacheable c x filters database) (call : Invocation)
    {work : Action (Session σ) α} (hwork : Respects (Matches c x filters database asked) work) :
    Respects (Matches c x filters database asked) (intercepted x call work) := by
  have hhook : ∀ i ∈ (x.hooks.map Session.liftHook).filter (·.appliesTo call),
      ∃ j ∈ x.hooks, Session.liftHook j = i := fun i hi ↦
    List.mem_map.mp (List.mem_filter.mp hi).1
  refine Respects.enclose ?_ ?_ ?_ hwork
  · intro i hi
    obtain ⟨j, hj, rfl⟩ := hhook i hi
    exact respects_lift (h.before_database j hj call)
  · intro i hi s t hst
    obtain ⟨j, hj, rfl⟩ := hhook i hi
    exact (respects_lift (m := fun s ↦ (.ok (), j.after call s))
      (h.after_database j hj call) s t hst).2
  · intro i hi e s t hst
    obtain ⟨j, hj, rfl⟩ := hhook i hi
    exact (respects_lift (m := fun s ↦ (.ok (), j.onError call e s))
      (h.onError_database j hj call e) s t hst).2

/-- Only the contexts that a method is queried with have to have keys of their own. -/
def KeysApart (asked : List (String × Context)) : Prop :=
  ∀ name args args', (name, args) ∈ asked → (name, args') ∈ asked →
    CacheKey.ofContext name args = CacheKey.ofContext name args' → args = args'

theorem Fresh.keep (h : Cacheable c x filters database) (hkeys : KeysApart asked)
    {name : String} {args : Context} (hasked : (name, args) ∈ asked) {m : PreparedMethod}
    (hm : c.readMethod name = .ok m) (hcached : m.method.cached = true) {cache : CatalogCache}
    {s : σ} (hfresh : Fresh c x database asked cache s) {now : Int} {a : List Value}
    (ha : (c.fetch x m args now s).1 = .ok a) (startedAt time : Nat) :
    Fresh c x database asked (cache.keep (.ofContext name args) a startedAt time) s := by
  intro name' args' hasked' m' hm' hcached' b hb now' s' hs'
  rcases (cache.keep_cases _ a startedAt time).1 _ b hb with hb | ⟨hkey, rfl, -, -⟩
  · exact hfresh name' args' hasked' m' hm' hcached' b hb now' s' hs'
  · have hname : name' = name := congrArg CacheKey.method hkey
    subst hname
    obtain rfl : args' = args := hkeys name' args' args hasked' hasked hkey
    rw [hm] at hm'
    cases hm'
    rw [← ha]
    exact fetch_outcome h (h.read_untimed name' m hm hcached) args' now' now hs'

/-- An answer from the cache is the one that the database would give, and what is stored of a
computed answer is fresh. -/
theorem respects_reading (h : Cacheable c x filters database) (hkeys : KeysApart asked)
    {name : String} {args : Context} (hasked : (name, args) ∈ asked) {m : PreparedMethod}
    (hm : c.readMethod name = .ok m) (hcached : m.method.cached = true) (now : Int) :
    Respects (Matches c x filters database asked)
      (Session.reading (.ofContext name args) (c.fetch x m args now)) := by
  rintro s t ⟨⟨cache, hcache, hfilters, hfresh⟩, hplain, hstate⟩
  obtain ⟨hanswer, hholds, -, -, hfilters'⟩ :=
    cache.lookup_cases (.ofContext name args) s.clock.time
  have hfetch := fetch_state h m args now s.state
  cases hl : cache.lookup (.ofContext name args) s.clock.time with
  | mk a? after =>
    rw [hl] at hanswer hholds hfilters'
    have hafter : Fresh c x database asked after s.state := hfresh.of_le hholds rfl
    simp only [Session.reading, Session.withCache, hcache, hplain, Session.lift, Cached.read,
      ← hstate, hl]
    cases a? with
    | some a =>
      have hnow := hfresh name args hasked m hm hcached a (hanswer a rfl) now s.state rfl
      exact ⟨hnow.symm, ⟨after, rfl, hfilters'.trans hfilters, hafter⟩, rfl, hfetch.symm⟩
    | none =>
      cases hr : c.fetch x m args now s.state with
      | mk r s' =>
        rw [hr] at hfetch
        simp only [Cached.lift, hr]
        have hmiss : Fresh c x database asked after.countMiss s' := hafter.of_le
          (fun _ _ ha ↦ ha) (congrArg database hfetch)
        cases r with
        | error e => exact ⟨rfl, ⟨after.countMiss, rfl, hfilters'.trans hfilters, hmiss⟩, rfl, rfl⟩
        | ok a =>
          have hok : (c.fetch x m args now s').1 = .ok a := by rw [show s' = _ from hfetch, hr]
          refine ⟨rfl, ⟨_, rfl, ?_, hmiss.keep h hkeys hasked hm hcached hok _ _⟩, rfl, rfl⟩
          exact (ResultCache.keep_cases _ _ _ _ _).2.2.2.trans (hfilters'.trans hfilters)

theorem respects_writing {name : String}
    {work : Action σ α} (hwork : RefreshFilter.anyMatches filters name = false →
      ∀ s, database (work s).2 = database s) :
    Respects (Matches c x filters database asked) (Session.writing name work) := by
  rintro s t ⟨⟨cache, hcache, hfilters, hfresh⟩, hplain, hstate⟩
  simp only [Session.writing, Session.withCache, hcache, hplain, Session.lift, Cached.write,
    Cached.lift, ← hstate]
  refine ⟨trivial, ⟨_, rfl, ?_, ?_⟩, rfl, rfl⟩
  · unfold ResultCache.afterWrite
    split <;> exact hfilters
  · unfold ResultCache.afterWrite ResultCache.isRefreshedBy
    split
    · intro name' args' _ m' _ _ a ha
      exact absurd ha (cache.not_holds_invalidate _ a)
    · rename_i hm
      rw [hfilters] at hm
      exact hfresh.of_le (fun _ _ ha ↦ ha) (hwork (by simpa using hm) s.state)

theorem respects_query (h : Cacheable c x filters database) (hkeys : KeysApart asked)
    {call : Invocation} {args : Context} (hasked : (call.method, args) ∈ asked) (now : Int) :
    Respects (Matches c x filters database asked) (c.query x call args now) := by
  unfold query
  cases hm : c.readMethod call.method with
  | error e => exact .ofResult _
  | ok m =>
    have hnone := h.no_transaction call.method m (method_of_readMethod hm)
    simp only [transactional_of_none hnone]
    refine respects_intercepted h call ?_
    by_cases hcached : m.method.cached = true
    · simp only [hcached, if_true]
      exact respects_reading h hkeys hasked hm hcached now
    · simp only [hcached]
      exact respects_lift fun s ↦ congrArg database (fetch_state h m args now s)

theorem respects_batch (h : Cacheable c x filters database) (call : Invocation)
    (units : List Context) (now : Int) :
    Respects (Matches c x filters database asked) (c.batch x call units now) := by
  unfold batch
  cases hm : c.writeMethod call.method with
  | error e => exact .ofResult _
  | ok m =>
    have hnone := h.no_transaction call.method m (method_of_writeMethod hm).1
    simp only [transactional_of_none hnone]
    refine respects_intercepted h call (respects_writing fun hname ↦ ?_)
    exact (h.write_database call.method m hm hname).2 units now

theorem respects_update (h : Cacheable c x filters database) (call : Invocation)
    (args : Context) (now : Int) :
    Respects (Matches c x filters database asked) (c.update x call args now) := by
  unfold update
  cases hm : c.writeMethod call.method with
  | error e => exact .ofResult _
  | ok m =>
    have hnone := h.no_transaction call.method m (method_of_writeMethod hm).1
    simp only [transactional_of_none hnone]
    split
    · exact (Respects.ofResult _).andThen fun units ↦
        (respects_batch h call units now).andThen fun counts ↦ .ofResult _
    · refine respects_intercepted h call (respects_writing fun hname ↦ ?_)
      exact (h.write_database call.method m hm hname).1 args now

theorem reply_matches (h : Cacheable c x filters database) (hkeys : KeysApart asked)
    {call : Call} (hasked : ∀ a ∈ queried [call], a ∈ asked) {s t : Session σ}
    (hst : Matches c x filters database asked s t) :
    (c.reply x call s).1 = (c.reply x call t).1 ∧
      Matches c x filters database asked (c.reply x call s).2 (c.reply x call t).2 := by
  cases call with
  | query call args now =>
    have hmem : (call.method, args) ∈ asked := hasked _ (by simp [queried])
    obtain ⟨he, hR⟩ := respects_query h hkeys hmem now s t hst
    exact ⟨congrArg Reply.rows he, hR⟩
  | update call args now =>
    obtain ⟨he, hR⟩ := respects_update h call args now s t hst
    exact ⟨congrArg Reply.count he, hR⟩
  | batch call units now =>
    obtain ⟨he, hR⟩ := respects_batch h call units now s t hst
    exact ⟨congrArg Reply.counts he, hR⟩
  | setClock clock => exact ⟨rfl, hst.cached, hst.plain, hst.state_eq⟩

theorem replies_eq (h : Cacheable c x filters database) (hkeys : KeysApart asked)
    {calls : List Call} (hasked : ∀ a ∈ queried calls, a ∈ asked) {s t : Session σ}
    (hst : Matches c x filters database asked s t) : c.replies x calls s = c.replies x calls t := by
  induction calls generalizing s t with
  | nil => rfl
  | cons call calls ih =>
    have hcall : ∀ a ∈ queried [call], a ∈ asked := fun a ha ↦ hasked a (by
      rw [queried, ← List.singleton_append, List.filterMap_append]
      exact List.mem_append_left _ ha)
    have hcalls : ∀ a ∈ queried calls, a ∈ asked := fun a ha ↦ hasked a (by
      rw [queried, ← List.singleton_append, List.filterMap_append]
      exact List.mem_append_right _ ha)
    obtain ⟨he, hR⟩ := reply_matches h hkeys hcall hst
    simp only [replies]
    rw [he, hR.state_eq, ih hcalls hR]

end

theorem build_eq_ok_iff {config : CatalogConfig} {b : Binder} {c : Catalog}
    {cache? : Option CatalogCache} {memory : Memory} : build config b memory = .ok (c, cache?) ↔
      config.validate = .ok () ∧ buildCache config memory = .ok cache? ∧
        ∃ methods, prepareAll config.methods.entries b = .ok methods ∧
          c = ⟨config.name, KeyMap.ofList methods, b.resolver⟩ := by
  simp only [build, Outcome.bind_eq_ok_iff, pure, Except.pure, Except.ok.injEq, Prod.mk.injEq]
  constructor
  · rintro ⟨_, hv, cache?', hc, methods, hm, rfl, rfl⟩
    exact ⟨hv, hc, methods, hm, rfl⟩
  · rintro ⟨hv, hc, methods, hm, rfl⟩
    exact ⟨(), hv, cache?, hc, methods, hm, rfl, rfl⟩

theorem build_without_cache {config : CatalogConfig} {b : Binder} {c : Catalog}
    {cache : CatalogCache} {memory : Memory} (h : build config b memory = .ok (c, some cache)) :
    build { config with cache? := none } b memory = .ok (c, none) ∧
      ∃ limits filters, ResultCache.create limits filters memory = .ok cache := by
  obtain ⟨hvalid, hcache, methods, hmethods, rfl⟩ := build_eq_ok_iff.mp h
  constructor
  · refine build_eq_ok_iff.mpr ⟨?_, rfl, methods, hmethods, rfl⟩
    simp only [CatalogConfig.validate, Outcome.bind_eq_ok_iff] at hvalid ⊢
    obtain ⟨_, _, filters, hfilters, hrest⟩ := hvalid
    exact ⟨(), rfl, filters, hfilters, hrest⟩
  · unfold buildCache at hcache
    split at hcache
    · cases hcache
    · rename_i limits _
      simp only [Outcome.bind_eq_ok_iff] at hcache
      obtain ⟨filters, _, cache', hcreate, he⟩ := hcache
      cases he
      exact ⟨limits, filters, hcreate⟩

/-- A catalog answers all calls alike with a cache and without one. -/
theorem cached_replies_eq_plain_replies {config : CatalogConfig} {b : Binder} {c : Catalog}
    {cache : CatalogCache} (hbuild : build config b = .ok (c, some cache))
    {x : Collaborators σ τ} {database : σ → δ} (h : Cacheable c x cache.filters database)
    {calls : List Call} (hkeys : KeysApart (queried calls)) (clock clock' : Clock) (s : σ) :
    build { config with cache? := none } b = .ok (c, none) ∧
      c.replies x calls ⟨some cache, clock, s⟩ = c.replies x calls ⟨none, clock', s⟩ := by
  obtain ⟨hplain, limits, filters, hcreate⟩ := build_without_cache hbuild
  refine ⟨hplain, replies_eq h hkeys (fun a ha ↦ ha) ⟨⟨cache, rfl, rfl, ?_⟩, rfl, rfl⟩⟩
  intro name args _ m _ _ a ha
  exact absurd ha (ResultCache.not_holds_create hcreate _ a)

section Counter

def counterConfig : CatalogConfig where
  cache? := some { capacity := 2, liveTime := 5 }
  refreshFilters := ["save"]
  methods := KeyMap.ofList
    [("find", { sql := "select :id" }), ("save", { sql := "save :id", kind := .write })]

def counterCatalog : Catalog where
  name := "dao"
  methods := KeyMap.ofList
    [("find", ⟨{ sql := "select :id" },
        ⟨"select :id", [.literal "select ", .parameter ⟨"id", []⟩]⟩⟩),
      ("save", ⟨{ sql := "save :id", kind := .write },
        ⟨"save :id", [.literal "save ", .parameter ⟨"id", []⟩]⟩⟩)]
  resolver := .byName

def counter : Collaborators (Nat × Nat) Unit where
  executor :=
    { query := fun _ s ↦ (.ok [.ok ⟨["n"], [.int (Int64.ofNat s.1)]⟩], s)
      update := fun _ s ↦ (.ok 1, (s.1 + 1, s.2))
      updateBatch := fun _ rows _ s ↦ (.ok (rows.map fun _ ↦ 1), (s.1 + rows.length, s.2)) }
  hooks := [⟨"calls", false, fun _ s ↦ (.ok (), (s.1, s.2 + 1)), fun _ s ↦ s, fun _ _ s ↦ s⟩]

theorem counter_method {name : String} {m : PreparedMethod}
    (h : counterCatalog.method name = .ok m) :
    (name = "find" ∧ m.method = { sql := "select :id" }) ∨
      (name = "save" ∧ m.method = { sql := "save :id", kind := .write }) := by
  have hentries : counterCatalog.methods.entries =
      [("find", ⟨{ sql := "select :id" },
          ⟨"select :id", [.literal "select ", .parameter ⟨"id", []⟩]⟩⟩),
        ("save", ⟨{ sql := "save :id", kind := .write },
          ⟨"save :id", [.literal "save ", .parameter ⟨"id", []⟩]⟩⟩)] := by decide +kernel
  unfold method KeyMap.get? at h
  simp only [hentries, KeyMap.lookup] at h
  by_cases hfind : name = "find"
  · simp only [hfind, if_true] at h
    cases h
    exact Or.inl ⟨hfind, rfl⟩
  · by_cases hsave : name = "save"
    · simp only [hsave] at h
      cases h
      exact Or.inr ⟨hsave, rfl⟩
    · simp only [hfind, hsave, if_false] at h
      cases h

theorem counter_cacheable :
    Cacheable counterCatalog counter [.substring ['s', 'a', 'v', 'e']] Prod.fst where
  query_state _ _ := rfl
  query_outcome _ s s' h := by simp only [counter, h]
  before_database i hi call s := by
    rw [List.mem_singleton.mp hi]
  after_database i hi call s := by
    rw [List.mem_singleton.mp hi]
  onError_database i hi call e s := by
    rw [List.mem_singleton.mp hi]
  write_database name m hm hname := by
    obtain ⟨hmethod, hkind⟩ := method_of_writeMethod hm
    rcases counter_method hmethod with ⟨-, hfind⟩ | ⟨rfl, -⟩
    · rw [hfind] at hkind
      cases hkind
    · exact absurd hname (by decide +kernel)
  no_transaction name m hm := by
    rcases counter_method hm with ⟨-, hm⟩ | ⟨-, hm⟩ <;> rw [hm]
  read_untimed name m hm _ := by
    rcases counter_method (method_of_readMethod hm) with ⟨-, hm⟩ | ⟨-, hm⟩ <;> rw [hm]

def counterCalls : List Call :=
  [.query ⟨"find", true⟩ ⟨KeyMap.ofList [("id", .null)], ∅⟩ 0,
    .query ⟨"find", true⟩ ⟨KeyMap.ofList [("id", .null)], ∅⟩ 1, .setClock ⟨9⟩,
    .update ⟨"save", true⟩ ⟨KeyMap.ofList [("id", .null)], ∅⟩ 2,
    .query ⟨"find", true⟩ ⟨KeyMap.ofList [("id", .null)], ∅⟩ 3]

theorem counter_keysApart : KeysApart (queried counterCalls) := by
  intro name args args' h h' _
  simp only [counterCalls, queried, List.filterMap_cons, List.filterMap_nil, List.mem_cons,
    Prod.mk.injEq, List.not_mem_nil, or_false, or_self] at h h'
  rw [h.2, h'.2]

theorem counter_methods :
    prepareAll counterConfig.methods.entries { resolver := .byName } =
      .ok [("find", ⟨{ sql := "select :id" },
          ⟨"select :id", [.literal "select ", .parameter ⟨"id", []⟩]⟩⟩),
        ("save", ⟨{ sql := "save :id", kind := .write },
          ⟨"save :id", [.literal "save ", .parameter ⟨"id", []⟩]⟩⟩)] := by
  decide +kernel

theorem counter_filters :
    RefreshFilter.parseAll counterConfig.refreshFilters =
      .ok [.substring ['s', 'a', 'v', 'e']] := by
  decide +kernel

theorem cached_counter_replies_eq :
    ∃ cache : CatalogCache, build counterConfig { resolver := .byName } =
        .ok (counterCatalog, some cache) ∧
      Cacheable counterCatalog counter cache.filters Prod.fst ∧
      KeysApart (queried counterCalls) ∧
      counterCatalog.replies counter counterCalls ⟨some cache, ⟨0⟩, (7, 0)⟩ =
        counterCatalog.replies counter counterCalls ⟨none, ⟨3⟩, (7, 0)⟩ := by
  have hcreate : ∃ cache : CatalogCache, ResultCache.create { capacity := 2, liveTime := 5 }
      [.substring ['s', 'a', 'v', 'e']] .addressable = .ok cache := ⟨_, rfl⟩
  obtain ⟨cache, hcache⟩ := hcreate
  have hbuild : build counterConfig { resolver := .byName } =
      .ok (counterCatalog, some cache) := by
    refine build_eq_ok_iff.mpr ⟨by decide +kernel, ?_, _, counter_methods, rfl⟩
    simp only [buildCache, counter_filters]
    simp only [counterConfig, Outcome.bind_eq_ok_iff]
    exact ⟨_, rfl, cache, hcache, rfl⟩
  have hfilters := (ResultCache.create_limits hcache).2
  have h : Cacheable counterCatalog counter cache.filters Prod.fst := hfilters ▸ counter_cacheable
  exact ⟨cache, hbuild, h, counter_keysApart,
    (cached_replies_eq_plain_replies hbuild h counter_keysApart ⟨0⟩ ⟨3⟩ (7, 0)).2⟩

end Counter

end Catalog

end QueryCatalog
