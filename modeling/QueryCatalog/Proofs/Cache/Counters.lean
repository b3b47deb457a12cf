import QueryCatalog.Proofs.Cache.Accounting
import QueryCatalog.Proofs.Cache.Expiry
import QueryCatalog.Proofs.Cache.Nesting

namespace QueryCatalog

open CacheDeed

namespace CacheStep

variable {α : Type} [Sized α]

mutual

def deeds (n : Nat) : CacheStep α → CacheWorld α → List (CacheDeed α)
  | read key during outcome, w =>
    match w.cache.lookup key w.clock.time with
    | (some a, _) => [.seen (.served key a)]
    | (none, cache) =>
      let started := { w with cache := cache.countMiss }
      let inner := deedsAll (n + 1) during started
      let overtaken := inner.any (·.sight.empties cache.filters)
      let held := ((runInner during started).cache.store.peek? key).isSome
      .seen (.computing key) :: (inner ++ [.computed n key outcome overtaken held])
  | get key, w =>
    match w.cache.lookup key w.clock.time with
    | (some a, _) => [.seen (.served key a)]
    | (none, _) => [.seen (.missed key)]
  | write method during outcome, w =>
    .seen (.writing method) :: (deedsAll (n + 1) during w ++
      [.wrote n method outcome (runInner during w).cache.store.size])
  | invalidate, w => [.emptied w.cache.store.size]
  | advance _, _ => [.seen .clockSet]
  | setClock _, _ => [.seen .clockSet]
  | isRefreshedBy _, _ => []

def deedsAll (n : Nat) : List (CacheStep α) → CacheWorld α → List (CacheDeed α)
  | [], _ => []
  | step :: steps, w =>
    deeds n step w ++ deedsAll (n + (deeds n step w).length) steps (run step w).2

end

mutual

theorem run_accounts (n : Nat) : ∀ (step : CacheStep α) (w : CacheWorld α),
    w.cache.store.Sound → Accounts (step.deeds n w) w.cache (step.run w).2.cache
  | read key during outcome, w => fun h ↦ by
    rw [deeds]
    cases hlookup : w.cache.lookup key w.clock.time with
    | mk answer? cache =>
      cases answer? with
      | some a =>
        rw [run_read_of_some hlookup]
        exact .served h hlookup
      | none =>
        -- A miss: the lookup, the steps inside the function, and what becomes of its outcome.
        rw [run_read_of_none hlookup]
        let started := { w with cache := cache.countMiss }
        have hlooked := Accounts.unanswered h hlookup
        have hstarted := Accounts.computing hlooked.sound key
        have hinner : Accounts (deedsAll (n + 1) during started) started.cache
            (runInner during started).cache := by
          rw [runInner]
          exact runAll_accounts (n + 1) during started hstarted.sound
        exact hlooked.trans (hstarted.trans (hinner.trans
          (.settled hinner.sound _ hinner.overtaken_iff)))
  | get key, w => fun h ↦ by
    rw [deeds, run]
    cases hlookup : w.cache.lookup key w.clock.time with
    | mk answer? cache =>
      cases answer? with
      | some a => exact .served h hlookup
      | none => exact .missed h hlookup
  | write method during outcome, w => fun h ↦ by
    rw [deeds, run, Cached.write, runInner]
    have hinner := runAll_accounts (n + 1) during w h
    exact (Accounts.quiet h rfl rfl rfl rfl rfl rfl).trans
      (hinner.trans (.wrote hinner.sound n method outcome))
  | invalidate, w => fun h ↦ by
    rw [deeds, run]
    exact .invalidated h rfl rfl rfl rfl rfl rfl
  | advance ms, w => fun h ↦ by
    rw [deeds, run]
    exact .quiet h rfl rfl rfl rfl rfl rfl
  | setClock ms, w => fun h ↦ by
    rw [deeds, run]
    exact .quiet h rfl rfl rfl rfl rfl rfl
  | isRefreshedBy method, w => fun h ↦ by
    rw [deeds, run]
    exact .nil h

theorem runAll_accounts (n : Nat) : ∀ (steps : List (CacheStep α)) (w : CacheWorld α),
    w.cache.store.Sound → Accounts (deedsAll n steps w) w.cache (runAll steps w).2.cache
  | [], w => fun h ↦ by
    rw [deedsAll, runAll]
    exact .nil h
  | step :: steps, w => fun h ↦ by
    rw [deedsAll, runAll]
    have hstep := run_accounts n step w h
    exact hstep.trans (runAll_accounts _ steps (run step w).2 hstep.sound)

end

def Balanced (deeds : List (CacheDeed α)) : Prop :=
  ∀ config, deeds.countP (·.sight.isComputing) = (fates config deeds).length

theorem Balanced.append {deeds deeds' : List (CacheDeed α)} (h : Balanced deeds)
    (h' : Balanced deeds') : Balanced (deeds ++ deeds') := by
  intro config
  rw [List.countP_append, fates_append, List.length_append, h config, h' config]

theorem Balanced.around {inner : List (CacheDeed α)} (h : Balanced inner) (n : Nat)
    (key : CacheKey) (outcome : Result α) (overtaken held : Bool) :
    Balanced (.seen (.computing key) :: (inner ++ [.computed n key outcome overtaken held])) := by
  intro config
  change _ = (fates config (inner ++ [_])).length
  rw [List.countP_cons_of_pos rfl, List.countP_append, fates_append, List.length_append, h config]
  rfl

mutual

theorem balanced_deeds (n : Nat) : ∀ (step : CacheStep α) (w : CacheWorld α),
    Balanced (step.deeds n w)
  | read key during outcome, w => by
    rw [deeds]
    cases w.cache.lookup key w.clock.time with
    | mk answer? cache =>
      cases answer? with
      | some a => exact fun _ ↦ rfl
      | none => exact (balanced_deedsAll (n + 1) during _).around n key outcome _ _
  | get key, w => by
    rw [deeds]
    cases w.cache.lookup key w.clock.time with
    | mk answer? cache => cases answer? <;> exact fun _ ↦ rfl
  | write method during outcome, w => by
    rw [deeds]
    have hwriting : Balanced [(.seen (.writing method) : CacheDeed α)] := fun _ ↦ rfl
    have hinner := balanced_deedsAll (n + 1) during w
    exact hwriting.append (hinner.append fun _ ↦ rfl)
  | invalidate, _ | advance _, _ | setClock _, _ | isRefreshedBy _, _ => by
    rw [deeds]
    exact fun _ ↦ rfl

theorem balanced_deedsAll (n : Nat) : ∀ (steps : List (CacheStep α)) (w : CacheWorld α),
    Balanced (deedsAll n steps w)
  | [], w => by
    rw [deedsAll]
    exact fun _ ↦ rfl
  | step :: steps, w => by
    rw [deedsAll]
    exact (balanced_deeds n step w).append (balanced_deedsAll _ steps _)

end

mutual

/-- Deeds are what the records of a step show. -/
theorem map_sight_deeds : ∀ (step : CacheStep α) (n : Nat) (w : CacheWorld α), w.state = none →
    (step.deeds n w).map CacheDeed.sight = step.sights n (step.run w).1
  | read key during outcome, n, w => fun hw ↦ by
    rw [deeds]
    cases hlookup : w.cache.lookup key w.clock.time with
    | mk answer? cache =>
      cases answer? with
      | some a =>
        rw [run_read_of_some hlookup, CacheWorld.record, hw]
        rfl
      | none =>
        have hinner := map_sight_deedsAll during (n + 1) { w with cache := cache.countMiss } hw
        rw [run_read_of_none hlookup, runInner]
        dsimp only [CacheWorld.record]
        rw [sights, ← hinner]
        simp [CacheDeed.sight]
  | get key, n, w => fun _ ↦ by
    rw [deeds, run]
    cases w.cache.lookup key w.clock.time with
    | mk answer? cache => cases answer? <;> rfl
  | write method during outcome, n, w => fun hw ↦ by
    have hinner := map_sight_deedsAll during (n + 1) w hw
    rw [deeds, run, Cached.write, runInner]
    dsimp only [CacheWorld.record]
    rw [sights, ← hinner]
    simp [CacheDeed.sight]
  | invalidate, n, w | advance _, n, w | setClock _, n, w | isRefreshedBy _, n, w => fun _ ↦ by
    rw [deeds, run]
    rfl

theorem map_sight_deedsAll : ∀ (steps : List (CacheStep α)) (n : Nat) (w : CacheWorld α),
    w.state = none →
    (deedsAll n steps w).map CacheDeed.sight = sightsAll n steps (runAll steps w).1
  | [], n, w => fun _ ↦ by
    rw [deedsAll, runAll]
    rfl
  | step :: steps, n, w => fun hw ↦ by
    have hstep := map_sight_deeds step n w hw
    have hrest := map_sight_deedsAll steps (n + (step.deeds n w).length) (step.run w).2
      (run_interleaves step w hw).1
    rw [deedsAll, runAll, List.map_append, hstep, hrest]
    simp only [sightsAll]
    rw [← hstep, List.length_map]

end

end CacheStep

namespace SharedCache

variable {α : Type} [Sized α]

def deeds (m : CacheMoment α) (s : SharedCache α) : List (CacheDeed α) :=
  match m with
  | .startRead key =>
    match s.cache.lookup key s.clock.time with
    | (some a, _) => [.seen (.served key a)]
    | (none, _) => [.seen (.computing key)]
  | .endRead started outcome =>
    match s.reads.find? (·.started == started) with
    | none => []
    | some r =>
      let overtaken := (s.sights.drop r.started).any (CacheSight.empties s.cache.filters)
      [.computed r.started r.key outcome overtaken (s.cache.store.peek? r.key).isSome]
  | .startWrite method => [.seen (.writing method)]
  | .endWrite started outcome =>
    match s.writes.find? (·.started == started) with
    | none => []
    | some w => [.wrote w.started w.method outcome s.cache.store.size]
  | .get key =>
    match s.cache.lookup key s.clock.time with
    | (some a, _) => [.seen (.served key a)]
    | (none, _) => [.seen (.missed key)]
  | .invalidate => [.emptied s.cache.store.size]
  | .setClock _ => [.seen .clockSet]

def deedsAll : List (CacheMoment α) → SharedCache α → List (CacheDeed α)
  | [], _ => []
  | m :: moments, s => deeds m s ++ deedsAll moments (s.step m)

/-- The deeds so far lead to the cache. Computations that began without an end are under way, and
the sights since the beginning of each tell whether it has been overtaken. -/
structure Recounted (c : ResultCache α) (deeds : List (CacheDeed α)) (s : SharedCache α) :
    Prop where
  accounts : Accounts deeds c s.cache
  sights_eq : s.sights = deeds.map CacheDeed.sight
  reads : ∀ r ∈ s.reads, r.started ≤ s.sights.length ∧ s.cache.generation =
    r.generation + (s.sights.drop r.started).countP (CacheSight.empties s.cache.filters)
  pending : deeds.countP (·.sight.isComputing) = (fates c.config deeds).length + s.reads.length

namespace Recounted

variable {c : ResultCache α} {deeds new : List (CacheDeed α)} {s s' : SharedCache α}

theorem next (h : Recounted c deeds s) (hnew : Accounts new s.cache s'.cache)
    (hsights : s'.sights = s.sights ++ new.map CacheDeed.sight)
    (hreads : ∀ r ∈ s'.reads, r ∈ s.reads ∨
      r.started = s.sights.length ∧ r.generation = s.cache.generation)
    (hpending : new.countP (·.sight.isComputing) + s.reads.length =
      (fates c.config new).length + s'.reads.length) :
    Recounted c (deeds ++ new) s' where
  accounts := h.accounts.trans hnew
  sights_eq := by rw [hsights, h.sights_eq, List.map_append]
  reads := by
    intro r hr
    have hempties : (new.map CacheDeed.sight).countP (CacheSight.empties s.cache.filters) =
        new.countP (·.sight.empties s.cache.filters) := List.countP_map
    have hstarted : r.started ≤ s.sights.length ∧ s.cache.generation =
        r.generation + (s.sights.drop r.started).countP (CacheSight.empties s.cache.filters) := by
      rcases hreads r hr with hold | ⟨hstarted, hgeneration⟩
      · exact h.reads r hold
      · rw [hstarted, hgeneration, List.drop_length]
        exact ⟨Nat.le_refl _, rfl⟩
    rw [hsights, hnew.filters_eq, List.drop_append_of_le_length hstarted.1, List.countP_append,
      hempties, hnew.generation, List.length_append]
    omega
  pending := by
    have hearlier := h.pending
    rw [List.countP_append, fates_append, List.length_append]
    omega

theorem overtaken_iff (h : Recounted c deeds s) {r : PendingRead} (hr : r ∈ s.reads) :
    (s.sights.drop r.started).any (CacheSight.empties s.cache.filters) = true ↔
      s.cache.generation ≠ r.generation := by
  rw [List.any_eq_true, ← List.countP_pos_iff, (h.reads r hr).2]
  omega

theorem same (h : Recounted c deeds s) (hnew : Accounts new s.cache s'.cache)
    (hsights : s'.sights = s.sights ++ new.map CacheDeed.sight) (hreads : s'.reads = s.reads)
    (hpending : new.countP (·.sight.isComputing) = (fates c.config new).length) :
    Recounted c (deeds ++ new) s' :=
  h.next hnew hsights (fun _ hr ↦ Or.inl (hreads ▸ hr)) (by rw [hpending, hreads])

theorem startRead (h : Recounted c deeds s) (key : CacheKey) :
    Recounted c (deeds ++ s.deeds (.startRead key)) (s.step (.startRead key)) := by
  have hsound := h.accounts.sound
  cases hlookup : s.cache.lookup key s.clock.time with
  | mk answer? cache =>
    cases answer? with
    | some a =>
      simp only [SharedCache.deeds, SharedCache.step, hlookup]
      exact h.same (.served hsound hlookup) rfl rfl rfl
    | none =>
      simp only [SharedCache.deeds, SharedCache.step, hlookup]
      have hlooked := Accounts.unanswered hsound hlookup
      refine h.next (hlooked.trans (.computing hlooked.sound key)) rfl (fun r hr ↦ ?_)
        ((Nat.add_comm 1 _).trans (Nat.zero_add _).symm)
      rcases List.mem_cons.mp hr with rfl | hr
      · exact Or.inr ⟨rfl, hlooked.generation⟩
      · exact Or.inl hr

theorem endRead (h : Recounted c deeds s) (started : Nat) (outcome : Result α) :
    Recounted c (deeds ++ s.deeds (.endRead started outcome))
      (s.step (.endRead started outcome)) := by
  cases hread : s.reads.find? (·.started == started) with
  | none =>
    simp only [SharedCache.deeds, SharedCache.step, hread]
    rwa [List.append_nil]
  | some r =>
    have hr := List.mem_of_find?_eq_some hread
    have hlength := List.length_eraseP_of_mem hr (List.find?_some hread)
    have hpos := List.length_pos_of_mem hr
    simp only [SharedCache.deeds, SharedCache.step, hread]
    refine h.next (.settled h.accounts.sound _ (h.overtaken_iff hr)) rfl
      (fun q hq ↦ Or.inl (List.mem_of_mem_eraseP hq)) ?_
    change 0 + s.reads.length = 1 + (s.reads.eraseP (·.started == started)).length
    omega

theorem step (h : Recounted c deeds s) (m : CacheMoment α) :
    Recounted c (deeds ++ s.deeds m) (s.step m) := by
  have hsound := h.accounts.sound
  cases m with
  | startRead key => exact h.startRead key
  | endRead started outcome => exact h.endRead started outcome
  | startWrite method => exact h.same (.quiet hsound rfl rfl rfl rfl rfl rfl) rfl rfl rfl
  | endWrite started outcome =>
    cases hwrite : s.writes.find? (·.started == started) with
    | none =>
      simp only [SharedCache.deeds, SharedCache.step, hwrite]
      rwa [List.append_nil]
    | some w =>
      simp only [SharedCache.deeds, SharedCache.step, hwrite]
      exact h.same (.wrote hsound w.started w.method outcome) rfl rfl rfl
  | get key =>
    cases hlookup : s.cache.lookup key s.clock.time with
    | mk answer? cache =>
      simp only [SharedCache.deeds, SharedCache.step, hlookup]
      cases answer? with
      | some a => exact h.same (.served hsound hlookup) rfl rfl rfl
      | none => exact h.same (.missed hsound hlookup) rfl rfl rfl
  | invalidate => exact h.same (.invalidated hsound rfl rfl rfl rfl rfl rfl) rfl rfl rfl
  | setClock clock => exact h.same (.quiet hsound rfl rfl rfl rfl rfl rfl) rfl rfl rfl

theorem run (h : Recounted c deeds s) (moments : List (CacheMoment α)) :
    Recounted c (deeds ++ deedsAll moments s) (s.run moments) := by
  induction moments generalizing deeds s with
  | nil => rwa [deedsAll, List.append_nil]
  | cons m moments ih =>
    rw [deedsAll, ← List.append_assoc]
    exact ih (h.step m)

end Recounted

end SharedCache

/-- What the counters of a cache tell of its deeds when no computation is under way. -/
structure CountersTell {α : Type} [Sized α] (config : CacheConfig) (filters : List RefreshFilter)
    (deeds : List (CacheDeed α)) (c : ResultCache α) : Prop where
  computing : c.counters.misses = deeds.countP (·.sight.isComputing)
  computed : c.counters.misses = (fates config deeds).count .failed + c.counters.bypassed +
    (fates config deeds).count .discarded + (fates config deeds).count .stored
  bypassed : c.counters.bypassed = (fates config deeds).count .bypassed
  stored : (fates config deeds).count .stored =
    c.store.size + c.counters.evictions + c.counters.expirations + entriesDropped filters deeds +
      deeds.countP (·.replaces config)
  served : c.counters.hits = deeds.countP (·.sight.isServed)
  emptied : c.generation = deeds.countP (·.sight.empties filters)
  invalidations : c.counters.invalidations = c.generation

theorem Accounts.countersTell {α : Type} [Sized α] {config : CacheConfig}
    {filters : List RefreshFilter} {store : Store α} {deeds : List (CacheDeed α)}
    {c : ResultCache α} (hempty : store.size = 0)
    (h : Accounts deeds { config := config, filters := filters, store := store } c)
    (hbalanced : deeds.countP (·.sight.isComputing) = (fates config deeds).length) :
    CountersTell config filters deeds c := by
  have hmisses : c.counters.misses = deeds.countP (·.sight.isComputing) :=
    h.misses.trans (Nat.zero_add _)
  have hbypassed : c.counters.bypassed = (fates config deeds).count .bypassed :=
    h.bypassed.trans (Nat.zero_add _)
  have hgeneration : c.generation = deeds.countP (·.sight.empties filters) :=
    h.generation.trans (Nat.zero_add _)
  have hcounts := length_eq_counts (fates config deeds)
  exact {
    computing := hmisses
    computed := by omega
    bypassed := hbypassed
    stored := by
      have hbalance := h.balance
      change _ = store.size + 0 + 0 + (fates config deeds).count .stored at hbalance
      change _ + entriesDropped filters deeds + deeds.countP (·.replaces config) = _ at hbalance
      omega
    served := h.hits.trans (Nat.zero_add _)
    emptied := hgeneration
    invalidations := (h.invalidations.trans (Nat.zero_add _)).trans hgeneration.symm }

/-- In a cache over a new store the counters tell of its deeds, which are those that are seen, and
there are no more entries than there is room for: whenever none of the callers that use it at once
computes, and behind every run of nested steps. -/
theorem counters_tell {α : Type} [Sized α] {capacity shards : Nat} {store : Store α}
    (hstore : Store.create capacity shards = .ok store) (config : CacheConfig)
    (filters : List RefreshFilter) (clock : Clock) :
    let w := CacheWorld.over config filters store clock
    (∀ moments,
      let s := SharedCache.run moments ⟨w.cache, clock, [], [], []⟩
      let deeds := SharedCache.deedsAll moments ⟨w.cache, clock, [], [], []⟩
      deeds.map CacheDeed.sight = s.sights ∧
      (s.reads = [] → CountersTell config filters deeds s.cache) ∧
      s.cache.store.size ≤ capacity) ∧
    ∀ steps,
      let run := CacheStep.runAll steps w
      let deeds := CacheStep.deedsAll 0 steps w
      deeds.map CacheDeed.sight = CacheStep.sightsAll 0 steps run.1 ∧
      CountersTell config filters deeds run.2.cache ∧
      run.2.cache.store.size ≤ capacity := by
  intro w
  obtain ⟨hempty, hcapacity⟩ := Store.size_create hstore
  have hroom {deeds : List (CacheDeed α)} {c : ResultCache α} (h : Accounts deeds w.cache c) :
      c.store.size ≤ capacity :=
    (c.store.size_le_capacity.trans h.capacity_eq.le).trans hcapacity
  have hsound : w.cache.store.Sound := .create hstore
  refine ⟨fun moments ↦ ?_, fun steps ↦ ?_⟩
  · have hstart : SharedCache.Recounted w.cache [] ⟨w.cache, clock, [], [], []⟩ :=
      ⟨.nil hsound, rfl, nofun, rfl⟩
    have h := hstart.run moments
    refine ⟨h.sights_eq.symm, fun hreads ↦ h.accounts.countersTell hempty ?_, hroom h.accounts⟩
    have hpending := h.pending
    rw [hreads] at hpending
    exact hpending
  · have h := CacheStep.runAll_accounts 0 steps w hsound
    have hbalanced := CacheStep.balanced_deedsAll 0 steps w config
    exact ⟨CacheStep.map_sight_deedsAll steps 0 w rfl, h.countersTell hempty hbalanced, hroom h⟩

/-- A result is stored over one that was stored meanwhile, one is discarded for a write that failed,
one is too small, one fails, one expires, and one makes room for another. -/
def readsOfEveryFate : List (CacheStep (List Nat)) :=
  let a := keyNamed "a"
  let b := keyNamed "b"
  let failure : Error := .missingParameter "p"
  [.read a [.read a [] (.ok [1])] (.ok [2]),
    .read b [.write "saveAll" [] (.error failure)] (.ok [3]), .read b [] (.ok []),
    .read b [] (.error failure), .read a [] (.ok [4]), .get a, .advance 10, .get a,
    .read a [] (.ok [5]), .read b [] (.ok [6]), .read (keyNamed "c") [] (.ok [7])]

theorem counters_tell_every_fate :
    ∃ store : Store (List Nat), Store.create 2 1 = .ok store ∧
      let config : CacheConfig := { capacity := 2, liveTime := 10, minSize := 1 }
      let filters := [RefreshFilter.substring ['s', 'a', 'v', 'e']]
      let w := CacheWorld.over config filters store ⟨0⟩
      let deeds := CacheStep.deedsAll 0 readsOfEveryFate w
      let cache := (CacheStep.runAll readsOfEveryFate w).2.cache
      fates config deeds = [.stored, .stored, .discarded, .bypassed, .failed, .stored, .stored,
        .stored, .stored] ∧
      cache.counters = ⟨1, 9, 1, 1, 1, 1⟩ ∧ cache.store.size = 2 ∧
      entriesDropped filters deeds = 1 ∧ deeds.countP (·.replaces config) = 1 ∧
      CountersTell config filters deeds cache := by
  have hcreate : Store.create (α := List Nat) 2 1 = .ok ⟨2, [.empty]⟩ := rfl
  refine ⟨_, hcreate, ?_⟩
  intro config filters w deeds cache
  refine ⟨?_, ?_, ?_, ?_, ?_, ((counters_tell hcreate config filters ⟨0⟩).2 readsOfEveryFate).2.1⟩
  all_goals
    simp only [deeds, cache, w, readsOfEveryFate, CacheStep.deedsAll, CacheStep.deeds,
      CacheStep.run, CacheStep.runInner, CacheStep.runAll]
    decide +kernel

end QueryCatalog
