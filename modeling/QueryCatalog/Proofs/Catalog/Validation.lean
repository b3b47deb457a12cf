import QueryCatalog.Catalog.Basic
import QueryCatalog.Proofs.Cache.Conservation
import QueryCatalog.Proofs.KeyMap
import QueryCatalog.Proofs.Outcome
import QueryCatalog.Proofs.Template.Memoization

namespace QueryCatalog

namespace CacheConfig

variable {limits : CacheConfig} {e : Error}

theorem shards_of_valid (h : limits.validate = .ok ()) :
    0 < limits.shards ∧ limits.shards ≤ limits.capacity := by
  unfold validate at h
  split_ifs at h with hcapacity hshards
  omega

theorem capacity_pos (h : limits.validate = .ok ()) : 0 < limits.capacity :=
  Nat.lt_of_lt_of_le (shards_of_valid h).1 (shards_of_valid h).2

theorem shardCount_eq (h : limits.validate = .ok ()) :
    Store.shardCount limits.capacity limits.shards = limits.shards := by
  have hshards := shards_of_valid h
  unfold Store.shardCount
  omega

theorem exists_fault (h : limits.validate = .error e) : ∃ f, e = .config f := by
  unfold validate at h
  split_ifs at h with hcapacity hshards
  · exact ⟨_, (Except.error.inj h).symm⟩
  · exact ⟨_, (Except.error.inj h).symm⟩
  · split at h
    · split_ifs at h
      exact ⟨_, (Except.error.inj h).symm⟩
    · cases h

end CacheConfig

theorem RefreshFilter.exists_fault {raw : String} {e : Error} (h : parse raw = .error e) :
    ∃ f, e = .config f := by
  unfold parse at h
  split at h
  · split at h
    · cases h
    · exact ⟨_, (Except.error.inj h).symm⟩
  · exact ⟨_, (Except.error.inj h).symm⟩
  · cases h

theorem Store.one_le_capacity_create {α : Type} {capacity shards : Nat} {memory : Memory}
    {s : Store α} (h : Store.create capacity shards memory = .ok s) : 1 ≤ s.capacity := by
  obtain ⟨hpos, -, rfl⟩ := create_eq_ok_iff.mp h
  rw [Store.capacity, List.length_replicate]
  exact Nat.mul_pos (shardCapacity_pos hpos shards) (shardCount_pos hpos shards)

namespace CatalogConfig

inductive MethodFails (name : String) (m : Method) : Error → Prop
  | name (hname : name = "") : MethodFails name m (.config .emptyMethodName)
  | declaration {f : MethodFault} (hname : name ≠ "") (hcheck : m.check = .error f) :
      MethodFails name m (.config (.method name f))
  | template {f : Template.Fault} (hname : name ≠ "") (hcheck : m.check = .ok ())
      (hcompile : Template.compile m.sql = .error f) : MethodFails name m (.template f)

/-- The first fault of a configuration: of the limits of its cache, then of its filters in their
order, then of its methods in the order of their names. -/
inductive Fails (c : CatalogConfig) : Error → Prop
  | cache {limits : CacheConfig} {e : Error} (hlimits : c.cache? = some limits)
      (h : limits.validate = .error e) : Fails c e
  | filter {e : Error} (hcache : ∀ limits, c.cache? = some limits → limits.validate = .ok ())
      (h : Outcome.FirstFails RefreshFilter.parse c.refreshFilters e) : Fails c e
  | method {before after : List (String × Method)} {name : String} {m : Method} {e : Error}
      (hcache : ∀ limits, c.cache? = some limits → limits.validate = .ok ())
      (hfilters : ∀ raw ∈ c.refreshFilters, ∃ f, RefreshFilter.parse raw = .ok f)
      (hsplit : c.methods.entries = before ++ (name, m) :: after)
      (hbefore : ∀ entry ∈ before, ∀ e, ¬ MethodFails entry.1 entry.2 e)
      (h : MethodFails name m e) : Fails c e

/-- The machine can lay out the cache: all of its shards, with a table for their entries in each. -/
def Fits (c : CatalogConfig) (memory : Memory) : Prop :=
  ∀ limits, c.cache? = some limits → memory.holds limits.shards (limits.capacity / limits.shards)

variable {c : CatalogConfig} {name : String} {m : Method} {methods : List (String × Method)}
  {e : Error}

theorem not_fails_outOfMemory : ¬ c.Fails .outOfMemory := by
  rintro (⟨-, h⟩ | ⟨-, -, raw, -, -, -, h⟩ | ⟨-, -, -, -, h⟩)
  · obtain ⟨f, hf⟩ := CacheConfig.exists_fault h
    cases hf
  · obtain ⟨f, hf⟩ := RefreshFilter.exists_fault h
    cases hf
  · cases h

theorem validateMethod_of_unnamed (m : Method) :
    validateMethod "" m = .error (.config .emptyMethodName) := rfl

theorem validateMethod_of_named (hname : name ≠ "") (m : Method) : validateMethod name m =
    (m.validate name >>= fun _ ↦ Binding.compile m.sql >>= fun _ ↦ .ok ()) := by
  have hnamed : ¬ name.isEmpty = true := mt String.isEmpty_iff.mp hname
  rw [validateMethod, if_neg hnamed]
  rfl

theorem compile_eq_error_iff : (Binding.compile m.sql >>= fun _ ↦ .ok ()) = Except.error e ↔
    ∃ f, Template.compile m.sql = .error f ∧ .template f = e := by
  rw [Outcome.bind_eq_error_iff, Binding.compile, Outcome.mapError_eq_error_iff]
  simp

theorem validateMethod_eq_error_iff :
    validateMethod name m = .error e ↔ MethodFails name m e := by
  by_cases hname : name = ""
  · subst hname
    rw [validateMethod_of_unnamed]
    constructor
    · rintro ⟨⟩
      exact .name rfl
    · rintro (- | ⟨hne, -⟩ | ⟨hne, -⟩)
      · rfl
      · exact absurd rfl hne
      · exact absurd rfl hne
  · rw [validateMethod_of_named hname, Outcome.bind_eq_error_iff, compile_eq_error_iff,
      Method.validate, Outcome.mapError_eq_error_iff]
    constructor
    · rintro (⟨f, hcheck, rfl⟩ | ⟨_, hcheck, f, hcompile, rfl⟩)
      · exact .declaration hname hcheck
      · exact .template hname (Outcome.mapError_eq_ok_iff.mp hcheck) hcompile
    · rintro (hempty | ⟨-, hcheck⟩ | ⟨-, hcheck, hcompile⟩)
      · exact absurd hempty hname
      · exact Or.inl ⟨_, hcheck, rfl⟩
      · exact Or.inr ⟨(), Outcome.mapError_eq_ok_iff.mpr hcheck, _, hcompile, rfl⟩

theorem validateMethod_eq_ok_iff :
    (∃ u, validateMethod name m = .ok u) ↔ ∀ e, ¬ MethodFails name m e := by
  rw [Outcome.exists_ok_iff]
  exact forall_congr' fun e ↦ not_congr validateMethod_eq_error_iff

theorem exists_template_of_not_fails (h : ∀ e, ¬ MethodFails name m e) :
    m.check = .ok () ∧ ∃ t, Template.compile m.sql = .ok t := by
  have hname : name ≠ "" := fun hempty ↦ h _ (.name hempty)
  have hcheck : m.check = .ok () := by
    cases hcheck : m.check with
    | ok u => rfl
    | error f => exact absurd (.declaration hname hcheck) (h _)
  exact ⟨hcheck, Outcome.exists_ok_iff.mpr fun f hf ↦ h _ (.template hname hcheck hf)⟩

theorem validateMethods_eq_error_iff : validateMethods methods = .error e ↔
    Outcome.FirstFails (fun entry ↦ validateMethod entry.1 entry.2) methods e := by
  induction methods with
  | nil =>
    constructor
    · nofun
    · rintro ⟨before, a, after, hsplit, -⟩
      simp at hsplit
  | cons entry methods ih =>
    rw [validateMethods, Outcome.bind_eq_error_iff, ih, Outcome.firstFails_cons_iff]
    simp only [exists_and_right]

theorem not_fails_of_validateMethods (h : validateMethods methods = .ok ()) :
    ∀ entry ∈ methods, ∀ e, ¬ MethodFails entry.1 entry.2 e := by
  intro entry hmem e he
  have hfails : ∃ e, Outcome.FirstFails (fun entry ↦ validateMethod entry.1 entry.2) methods e :=
    Outcome.exists_firstFails_iff.mpr ⟨entry, hmem, e, validateMethod_eq_error_iff.mpr he⟩
  obtain ⟨e', hfirst⟩ := hfails
  cases h.symm.trans (validateMethods_eq_error_iff.mpr hfirst)

theorem validateCache_eq_ok_iff : c.validateCache = .ok () ↔
    ∀ limits, c.cache? = some limits → limits.validate = .ok () := by
  unfold validateCache
  cases c.cache? with
  | none => simp
  | some limits => simp

theorem validateCache_eq_error_iff : c.validateCache = .error e ↔
    ∃ limits, c.cache? = some limits ∧ limits.validate = .error e := by
  unfold validateCache
  cases c.cache? with
  | none => simp
  | some limits => simp

theorem validate_eq_ok_iff : c.validate = .ok () ↔ c.validateCache = .ok () ∧
    (∃ filters, RefreshFilter.parseAll c.refreshFilters = .ok filters) ∧
      validateMethods c.methods.entries = .ok () := by
  simp only [validate, Outcome.bind_eq_ok_iff, exists_and_right, Unique.exists_iff]

theorem validate_eq_error_iff : c.validate = .error e ↔ c.Fails e := by
  rw [validate, Outcome.bind_eq_error_iff, Outcome.bind_eq_error_iff]
  constructor
  · rintro (hcache | ⟨_, hcache, hfilter | ⟨filters, hfilters, hmethods⟩⟩)
    · obtain ⟨limits, hlimits, h⟩ := validateCache_eq_error_iff.mp hcache
      exact .cache hlimits h
    · exact .filter (validateCache_eq_ok_iff.mp hcache) (Outcome.mapM_eq_error_iff.mp hfilter)
    · obtain ⟨before, ⟨name, m⟩, after, hsplit, hbefore, h⟩ :=
        validateMethods_eq_error_iff.mp hmethods
      exact .method (validateCache_eq_ok_iff.mp hcache)
        (Outcome.exists_mapM_ok_iff.mp ⟨filters, hfilters⟩) hsplit
        (fun entry hentry ↦ validateMethod_eq_ok_iff.mp (hbefore entry hentry))
        (validateMethod_eq_error_iff.mp h)
  · rintro (⟨hlimits, h⟩ | ⟨hcache, h⟩ | ⟨hcache, hfilters, hsplit, hbefore, h⟩)
    · exact Or.inl (validateCache_eq_error_iff.mpr ⟨_, hlimits, h⟩)
    · exact Or.inr ⟨(), validateCache_eq_ok_iff.mpr hcache,
        Or.inl (Outcome.mapM_eq_error_iff.mpr h)⟩
    · obtain ⟨filters, hparse⟩ := Outcome.exists_mapM_ok_iff.mpr hfilters
      refine Or.inr ⟨(), validateCache_eq_ok_iff.mpr hcache, Or.inr ⟨filters, hparse, ?_⟩⟩
      exact validateMethods_eq_error_iff.mpr ⟨_, _, _, hsplit,
        fun entry hentry ↦ validateMethod_eq_ok_iff.mpr (hbefore entry hentry),
        validateMethod_eq_error_iff.mpr h⟩

end CatalogConfig

namespace Catalog

open Template (Memo MemoCall)

variable {config : CatalogConfig} {b : Binder} {c : Catalog} {cache? : Option CatalogCache}
  {calls : List MemoCall} {e : Error} {memory : Memory}

def PreparedFrom (entry : String × Method) (prepared : String × PreparedMethod) : Prop :=
  prepared.1 = entry.1 ∧ prepared.2.method = entry.2 ∧
    Template.compile entry.2.sql = .ok prepared.2.template

/-- Templates that compile once can be taken from a memo that holds only what it has compiled. -/
theorem exists_prepareAll {methods : List (String × Method)} (hb : Memo.Tracks calls b.templates)
    (h : ∀ entry ∈ methods, ∃ t, Template.compile entry.2.sql = .ok t) :
    ∃ prepared, prepareAll methods b = .ok prepared ∧
      List.Forall₂ PreparedFrom methods prepared := by
  induction methods generalizing b calls with
  | nil => exact ⟨[], rfl, .nil⟩
  | cons entry methods ih =>
    obtain ⟨name, m⟩ := entry
    obtain ⟨⟨t, ht⟩, hrest⟩ := List.forall_mem_cons.mp h
    have htemplate : b.template m.sql =
        (.ok t, { b with templates := (b.templates.get m.sql).2 }) := by
      have hget : (b.templates.get m.sql).1.mapError Error.template = .ok t := by
        rw [hb.get_eq, ht]
        rfl
      exact congrArg (·, { b with templates := (b.templates.get m.sql).2 }) hget
    obtain ⟨prepared, hprepared, hforall⟩ :=
      ih (b := { b with templates := (b.templates.get m.sql).2 }) (hb.get m.sql) hrest
    refine ⟨(name, ⟨m, t⟩) :: prepared, ?_, .cons ⟨rfl, rfl, ht⟩ hforall⟩
    rw [prepareAll, htemplate]
    dsimp only
    rw [hprepared]
    rfl

theorem lookup_prepared {methods : List (String × Method)}
    {prepared : List (String × PreparedMethod)} (h : List.Forall₂ PreparedFrom methods prepared)
    (name : String) : (KeyMap.lookup name methods = none ∧ KeyMap.lookup name prepared = none) ∨
      ∃ m t, KeyMap.lookup name methods = some m ∧ KeyMap.lookup name prepared = some ⟨m, t⟩ ∧
        Template.compile m.sql = .ok t := by
  induction h with
  | nil => exact Or.inl ⟨rfl, rfl⟩
  | @cons entry p methods prepared hentry _ ih =>
    obtain ⟨name', m, t⟩ := p
    obtain ⟨_, _⟩ := entry
    obtain ⟨rfl, rfl, ht⟩ := hentry
    rw [KeyMap.lookup, KeyMap.lookup]
    split
    · exact Or.inr ⟨m, t, rfl, rfl, ht⟩
    · exact ih

theorem map_fst_prepared {methods : List (String × Method)}
    {prepared : List (String × PreparedMethod)} (h : List.Forall₂ PreparedFrom methods prepared) :
    prepared.map Prod.fst = methods.map Prod.fst := by
  induction h with
  | nil => rfl
  | cons hentry _ ih => exact congrArg₂ List.cons hentry.1 ih

/-- There is a cache if and only if the configuration asks for one; it has room for a result, and
for no more of them than it may. -/
structure CacheFrom (config : CatalogConfig) (cache? : Option CatalogCache) : Prop where
  uncached : config.cache? = none → cache? = none
  capacity : ∀ limits, config.cache? = some limits → ∃ cache, cache? = some cache ∧
    1 ≤ cache.store.capacity ∧ cache.store.capacity ≤ limits.capacity

structure BuiltFrom (config : CatalogConfig) (c : Catalog) (cache? : Option CatalogCache) : Prop
    extends CacheFrom config cache? where
  template : ∀ name m, config.methods.get? name = some m →
    ∃ t, c.methods.get? name = some ⟨m, t⟩ ∧ Template.compile m.sql = .ok t
  undeclared : ∀ name, config.methods.get? name = none → c.methods.get? name = none
  batchSize : ∀ name p, c.methods.get? name = some p → 0 < p.method.batchSize

theorem batchSize_pos {m : Method} (h : m.check = .ok ()) : 0 < m.batchSize := by
  unfold Method.check at h
  split_ifs at h with hsql hzero
  all_goals omega

/-- What is checked again on the way to a cache finds nothing new, and so its memory decides. -/
theorem buildCache_eq {limits : CacheConfig} (h : config.validate = .ok ())
    (hlimits : config.cache? = some limits) (memory : Memory) : ∃ filters,
      buildCache config memory = (Store.create limits.capacity limits.shards memory).map fun store ↦
        some { config := limits, filters := filters, store := store } := by
  obtain ⟨hcache, ⟨filters, hfilters⟩, -⟩ := CatalogConfig.validate_eq_ok_iff.mp h
  have hvalid := CatalogConfig.validateCache_eq_ok_iff.mp hcache limits hlimits
  refine ⟨filters, ?_⟩
  unfold buildCache
  rw [hlimits]
  show (RefreshFilter.parseAll config.refreshFilters).bind _ = _
  rw [hfilters]
  show (ResultCache.create limits filters memory).bind _ = _
  rw [ResultCache.create, hvalid]
  cases Store.create (α := List Value) limits.capacity limits.shards memory <;> rfl

theorem exists_buildCache (h : config.validate = .ok ()) (hfits : config.Fits memory) :
    ∃ cache?, buildCache config memory = .ok cache? ∧ CacheFrom config cache? := by
  cases hlimits : config.cache? with
  | none =>
    refine ⟨none, ?_, fun _ ↦ rfl, by simp [hlimits]⟩
    rw [buildCache, hlimits]
  | some limits =>
    have hvalid := CatalogConfig.validateCache_eq_ok_iff.mp
      (CatalogConfig.validate_eq_ok_iff.mp h).1 limits hlimits
    have hholds := hfits limits hlimits
    rw [← CacheConfig.shardCount_eq hvalid] at hholds
    obtain ⟨store, hstore⟩ : ∃ store : Store (List Value),
        Store.create limits.capacity limits.shards memory = .ok store :=
      ⟨_, Store.create_eq_ok_iff.mpr ⟨CacheConfig.capacity_pos hvalid, hholds, rfl⟩⟩
    obtain ⟨filters, hbuild⟩ := buildCache_eq h hlimits memory
    rw [hstore] at hbuild
    refine ⟨_, hbuild, ?_, ?_⟩
    · intro hnone
      cases hlimits.symm.trans hnone
    · intro limits' hlimits'
      cases hlimits.symm.trans hlimits'
      exact ⟨_, rfl, Store.one_le_capacity_create hstore, (Store.size_create hstore).2⟩

theorem buildCache_of_not_fits (h : config.validate = .ok ()) (hfits : ¬ config.Fits memory) :
    buildCache config memory = .error .outOfMemory := by
  unfold CatalogConfig.Fits at hfits
  push Not at hfits
  obtain ⟨limits, hlimits, hholds⟩ := hfits
  have hvalid := CatalogConfig.validateCache_eq_ok_iff.mp
    (CatalogConfig.validate_eq_ok_iff.mp h).1 limits hlimits
  rw [← CacheConfig.shardCount_eq hvalid] at hholds
  obtain ⟨filters, hbuild⟩ := buildCache_eq h hlimits memory
  rw [hbuild, Store.create_eq (CacheConfig.capacity_pos hvalid), if_neg hholds]
  rfl

theorem builtFrom_of_prepared {prepared : List (String × PreparedMethod)} (resolver : Resolver)
    (hforall : List.Forall₂ PreparedFrom config.methods.entries prepared)
    (hcheck : ∀ entry ∈ config.methods.entries, entry.2.check = .ok ())
    (hcache : CacheFrom config cache?) :
    BuiltFrom config ⟨config.name, KeyMap.ofList prepared, resolver⟩ cache? := by
  have hentries : (KeyMap.ofList prepared).entries = prepared := by
    apply KeyMap.entries_ofList
    rw [map_fst_prepared hforall]
    exact config.methods.sorted
  have hlookup (name : String) := lookup_prepared hforall name
  rw [← hentries] at hlookup
  refine ⟨hcache, ?_, ?_, ?_⟩
  · intro name m hm
    rcases hlookup name with ⟨hnone, -⟩ | ⟨m', t, hm', hp, ht⟩
    · cases hnone.symm.trans hm
    · cases hm'.symm.trans hm
      exact ⟨t, hp, ht⟩
  · intro name hnone
    rcases hlookup name with ⟨-, hp⟩ | ⟨m, _, hm, -⟩
    · exact hp
    · cases hnone.symm.trans hm
  · intro name p hp
    rcases hlookup name with ⟨-, hnone⟩ | ⟨m, t, hm, hp', -⟩
    · cases hnone.symm.trans hp
    · cases hp'.symm.trans hp
      exact batchSize_pos (hcheck (name, m) (KeyMap.get?_eq_some_iff.mp hm))

theorem exists_build (hb : Memo.Tracks calls b.templates) (h : config.validate = .ok ())
    (hfits : config.Fits memory) :
    ∃ c cache?, build config b memory = .ok (c, cache?) ∧ BuiltFrom config c cache? := by
  obtain ⟨-, -, hmethods⟩ := CatalogConfig.validate_eq_ok_iff.mp h
  have hsound (entry : String × Method) (hmem : entry ∈ config.methods.entries) :=
    CatalogConfig.exists_template_of_not_fails
      (CatalogConfig.not_fails_of_validateMethods hmethods entry hmem)
  obtain ⟨cache?, hbuildCache, hcache⟩ := exists_buildCache h hfits
  obtain ⟨prepared, hprepared, hforall⟩ :=
    exists_prepareAll hb fun entry hmem ↦ (hsound entry hmem).2
  have hbuilt := builtFrom_of_prepared b.resolver hforall (fun entry hmem ↦ (hsound entry hmem).1)
    hcache
  refine ⟨_, cache?, ?_, hbuilt⟩
  simp only [build, Outcome.bind_eq_ok_iff]
  exact ⟨(), h, cache?, hbuildCache, prepared, hprepared, rfl⟩

theorem build_of_invalid (b : Binder) (h : config.validate = .error e) :
    build config b memory = .error e := by
  rw [build, h]
  rfl

theorem build_of_not_fits (b : Binder) (h : config.validate = .ok ())
    (hfits : ¬ config.Fits memory) : build config b memory = .error .outOfMemory := by
  rw [build, h]
  show (buildCache config memory).bind _ = _
  rw [buildCache_of_not_fits h hfits]
  rfl

/-- A catalog is built unless its configuration has a fault or its cache does not fit into memory.
The first fault is the error; without memory the program stops. -/
theorem build_agrees_with_validate (config : CatalogConfig) (b : Binder)
    (hb : b.templates = ({} : Memo).after calls) (memory : Memory) :
    ((∃ built, build config b memory = .ok built) ↔
      config.validate = .ok () ∧ config.Fits memory) ∧
    (∀ e, build config b memory = .error e ↔ config.validate = .error e ∨
      config.validate = .ok () ∧ ¬ config.Fits memory ∧ e = .outOfMemory) ∧
    (∀ e, config.validate = .error e ↔ config.Fails e) ∧ ¬ config.Fails .outOfMemory ∧
    ∀ c cache?, build config b memory = .ok (c, cache?) → BuiltFrom config c cache? := by
  have hfails (e : Error) : config.validate = .error e ↔ config.Fails e :=
    CatalogConfig.validate_eq_error_iff
  cases hvalid : config.validate with
  | error e =>
    rw [build_of_invalid b hvalid]
    exact ⟨by simp, by simp, fun e' ↦ hvalid ▸ hfails e', CatalogConfig.not_fails_outOfMemory,
      nofun⟩
  | ok u =>
    by_cases hfits : config.Fits memory
    · obtain ⟨c, cache?, hbuild, hbuilt⟩ := exists_build (hb ▸ Memo.tracks_after calls) hvalid hfits
      rw [hbuild]
      refine ⟨by simp [hfits], by simp [hfits], fun e' ↦ hvalid ▸ hfails e',
        CatalogConfig.not_fails_outOfMemory, ?_⟩
      rintro _ _ ⟨⟩
      exact hbuilt
    · rw [build_of_not_fits b hvalid hfits]
      exact ⟨by simp [hfits], by simp [hfits, eq_comm], fun e' ↦ hvalid ▸ hfails e',
        CatalogConfig.not_fails_outOfMemory, nofun⟩

/-- A valid cache with one shard for each of its results, as many as there are positive numbers. -/
def vastConfig : CatalogConfig where
  cache? := some { capacity := Nat.pow 2 63 - 1, shards := Nat.pow 2 63 - 1 }

theorem vast_cache_is_not_built : vastConfig.validate = .ok () ∧
    build vastConfig { resolver := .byName } = .error .outOfMemory ∧
      ¬ ((∃ built, build vastConfig { resolver := .byName } = .ok built) ↔
        vastConfig.validate = .ok ()) := by
  have hvalid : vastConfig.validate = .ok () := rfl
  have hbuild : build vastConfig { resolver := .byName } = .error .outOfMemory :=
    build_of_not_fits _ hvalid fun hfits ↦ absurd (hfits _ rfl) (by decide)
  refine ⟨hvalid, hbuild, fun hiff ↦ ?_⟩
  obtain ⟨built, hbuilt⟩ := hiff.mpr hvalid
  cases hbuild.symm.trans hbuilt

def shardedConfig : CatalogConfig where
  cache? := some { capacity := 3, shards := 2 }
  refreshFilters := ["save"]
  methods := KeyMap.ofList
    [("find", { sql := "select :id" }), ("save", { sql := "save {t -> :id}", kind := .write })]

def usedBinder : Binder where
  resolver := .byName
  templates := ({} : Memo).after [.get "select :id", .get "select :", .clear, .get "save"]

theorem sharded_is_built :
    usedBinder.templates =
        ({} : Memo).after [.get "select :id", .get "select :", .clear, .get "save"] ∧
      ∃ c cache?, build shardedConfig usedBinder = .ok (c, cache?) ∧
        BuiltFrom shardedConfig c cache? := by
  have hmemo : usedBinder.templates =
      ({} : Memo).after [.get "select :id", .get "select :", .clear, .get "save"] := rfl
  obtain ⟨hbuild, -, -, -, hbuilt⟩ :=
    build_agrees_with_validate shardedConfig usedBinder hmemo .addressable
  have hfits : shardedConfig.Fits .addressable := by
    rintro _ ⟨⟩
    decide
  obtain ⟨⟨c, cache?⟩, h⟩ := hbuild.mpr ⟨by decide +kernel, hfits⟩
  exact ⟨hmemo, c, cache?, h, hbuilt c cache? h⟩

example : ({ cache? := some { capacity := 3, shards := 4 }
             refreshFilters := ["save", ""]
             methods := KeyMap.ofList [("", {})] } : CatalogConfig).validate =
    .error (.config (.shardCount 3 4)) := by rfl

end Catalog

end QueryCatalog
