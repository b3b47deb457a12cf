import QueryCatalog.Cache.Run
import QueryCatalog.Proofs.Cache.Contents

namespace QueryCatalog

def ResultCache.settle {α : Type} [Sized α] (c : ResultCache α) (k : CacheKey)
    (outcome : Result α) (generation now : Nat) : ResultCache α :=
  match outcome with
  | .ok a => c.keep k a generation now
  | .error _ => c

namespace CacheStep

variable {α : Type} [Sized α] {w : CacheWorld α}

theorem run_read_of_some {key : CacheKey} {a : α} {cache : ResultCache α}
    (hlookup : w.cache.lookup key w.clock.time = (some a, cache)) (during : List (CacheStep α))
    (outcome : Result α) : run (read key during outcome) w =
      CacheWorld.record (.read (.ok a)) { w with cache := cache } := by
  simp only [run, Cached.read, hlookup]

theorem run_read_of_none {key : CacheKey} {cache : ResultCache α}
    (hlookup : w.cache.lookup key w.clock.time = (none, cache)) (during : List (CacheStep α))
    (outcome : Result α) : run (read key during outcome) w =
      let ended := runInner during { w with cache := cache.countMiss }
      CacheWorld.record (.read outcome) { ended with
        cache := ended.cache.settle key outcome cache.generation ended.clock.time } := by
  cases outcome <;> simp only [run, Cached.read, hlookup] <;> rfl

end CacheStep

inductive CacheMoment (α : Type)
  | startRead (key : CacheKey)
  | endRead (started : Nat) (outcome : Result α)
  | startWrite (method : String)
  | endWrite (started : Nat) (outcome : Result Unit)
  | get (key : CacheKey)
  | invalidate
  | setClock (clock : Clock)

inductive CacheSight (α : Type)
  | served (key : CacheKey) (value : α)
  | missed (key : CacheKey)
  | computing (key : CacheKey)
  | computed (started : Nat) (outcome : Result α)
  | writing (method : String)
  | wrote (started : Nat) (method : String) (outcome : Result Unit)
  | emptied
  | clockSet

def CacheSight.empties {α : Type} (filters : List RefreshFilter) : CacheSight α → Bool
  | wrote _ method _ => RefreshFilter.anyMatches filters method
  | emptied => true
  | _ => false

/-- A read whose computation runs, with the generation of the cache in which it started. -/
structure PendingRead where
  started : Nat
  key : CacheKey
  generation : Nat

structure PendingWrite where
  started : Nat
  method : String

structure SharedCache (α : Type) where
  cache : ResultCache α
  clock : Clock
  reads : List PendingRead := []
  writes : List PendingWrite := []
  sights : List (CacheSight α) := []

namespace SharedCache

variable {α : Type}

def see (x : CacheSight α) (s : SharedCache α) : SharedCache α :=
  { s with sights := s.sights ++ [x] }

/-- The moment that comes next is not one of a call that is under way: nothing happens then. -/
def step [Sized α] (m : CacheMoment α) (s : SharedCache α) : SharedCache α :=
  match m with
  | .startRead key =>
    match s.cache.lookup key s.clock.time with
    | (some a, cache) => { s with cache := cache }.see (.served key a)
    | (none, cache) =>
      { s with
        cache := cache.countMiss
        reads := ⟨s.sights.length, key, cache.generation⟩ :: s.reads }.see (.computing key)
  | .endRead started outcome =>
    match s.reads.find? (·.started == started) with
    | none => s
    | some r =>
      { s with
        reads := s.reads.eraseP (·.started == started)
        cache := s.cache.settle r.key outcome r.generation s.clock.time }.see
          (.computed r.started outcome)
  | .startWrite method =>
    { s with writes := ⟨s.sights.length, method⟩ :: s.writes }.see (.writing method)
  | .endWrite started outcome =>
    match s.writes.find? (·.started == started) with
    | none => s
    | some w =>
      { s with
        writes := s.writes.eraseP (·.started == started)
        cache := s.cache.afterWrite w.method }.see (.wrote w.started w.method outcome)
  | .get key =>
    match s.cache.lookup key s.clock.time with
    | (some a, cache) => { s with cache := cache }.see (.served key a)
    | (none, cache) => { s with cache := cache }.see (.missed key)
  | .invalidate => { s with cache := s.cache.invalidate }.see .emptied
  | .setClock clock => { s with clock := clock }.see .clockSet

def run [Sized α] (moments : List (CacheMoment α)) (s : SharedCache α) : SharedCache α :=
  moments.foldl (fun s m ↦ s.step m) s

end SharedCache

namespace SharedCache

variable {α : Type} {config : CacheConfig} {filters : List RefreshFilter}

/-- Seen from the moment `n`, the value is the outcome of a computation for the key that started
after the cache was last emptied. -/
def IsCurrent (filters : List RefreshFilter) (sights : List (CacheSight α)) (n : Nat)
    (key : CacheKey) (value : α) : Prop :=
  ∃ started ended, started < ended ∧ ended < n ∧
    sights[started]? = some (.computing key) ∧
    sights[ended]? = some (.computed started (.ok value)) ∧
    ∀ i x, i < n → sights[i]? = some x → x.empties filters → i < started

theorem getElem?_append_of_some {l : List α} {i : Nat} {x : α} (h : l[i]? = some x) (y : List α) :
    (l ++ y)[i]? = some x := by
  rw [List.getElem?_append_left (List.getElem?_eq_some_iff.mp h).1, h]

theorem IsCurrent.append {sights : List (CacheSight α)} {n : Nat} {key : CacheKey} {value : α}
    (h : IsCurrent filters sights n key value) (hn : n ≤ sights.length)
    (more : List (CacheSight α)) : IsCurrent filters (sights ++ more) n key value := by
  obtain ⟨started, ended, hse, hen, hs, he, hlast⟩ := h
  refine ⟨started, ended, hse, hen, getElem?_append_of_some hs _, getElem?_append_of_some he _, ?_⟩
  intro i x hi hx
  rw [List.getElem?_append_left (by omega)] at hx
  exact hlast i x hi hx

theorem getElem?_concat_cases {l : List α} {y : α} {i : Nat} {x : α}
    (h : (l ++ [y])[i]? = some x) : l[i]? = some x ∨ (i = l.length ∧ x = y) := by
  by_cases hi : i < l.length
  · rw [List.getElem?_append_left hi] at h
    exact Or.inl h
  · have hlen := (List.getElem?_eq_some_iff.mp h).1
    have he : i = l.length := by
      simp only [List.length_append, List.length_singleton] at hlen
      omega
    subst he
    rw [List.getElem?_concat_length, Option.some.injEq] at h
    exact Or.inr ⟨rfl, h.symm⟩

theorem IsCurrent.next {sights : List (CacheSight α)} {key : CacheKey} {value : α}
    (h : IsCurrent filters sights sights.length key value) {x : CacheSight α}
    (hx : x.empties filters = false) :
    IsCurrent filters (sights ++ [x]) (sights ++ [x]).length key value := by
  obtain ⟨started, ended, hse, hen, hs, he, hlast⟩ := h.append (Nat.le_refl _) [x]
  refine ⟨started, ended, hse, by simp only [List.length_append]; omega, hs, he, ?_⟩
  intro i y _ hy hempties
  rcases getElem?_concat_cases hy with hy' | ⟨-, rfl⟩
  · exact hlast i y (List.getElem?_eq_some_iff.mp hy').1 hy hempties
  · rw [hx] at hempties
    cases hempties

/-- No emptying was seen since a read started whose generation is that of the cache. -/
structure ReadSound (filters : List RefreshFilter) (s : SharedCache α) (r : PendingRead) :
    Prop where
  seen : s.sights[r.started]? = some (.computing r.key)
  generation_le : r.generation ≤ s.cache.generation
  last : r.generation = s.cache.generation →
    ∀ i x, s.sights[i]? = some x → x.empties filters → i < r.started

/-- The invariant of a shared cache: whatever it holds, and whatever it served, is current. -/
structure Sound [Sized α] (config : CacheConfig) (filters : List RefreshFilter)
    (s : SharedCache α) : Prop where
  config_eq : s.cache.config = config
  filters_eq : s.cache.filters = filters
  reads : ∀ r ∈ s.reads, ReadSound filters s r
  holds : ∀ k a, s.cache.Holds k a → IsCurrent filters s.sights s.sights.length k a ∧
    s.cache.isBypassed a = false
  served : ∀ n k a, s.sights[n]? = some (.served k a) → IsCurrent filters s.sights n k a

variable {s : SharedCache α}

theorem ReadSound.see {r : PendingRead} (h : ReadSound filters s r) {x : CacheSight α}
    (hx : x.empties filters = false) : ReadSound filters (s.see x) r := by
  refine ⟨getElem?_append_of_some h.seen _, h.generation_le, ?_⟩
  intro hg i y hy hempties
  rcases getElem?_concat_cases hy with hy | ⟨-, rfl⟩
  · exact h.last hg i y hy hempties
  · rw [hx] at hempties
    cases hempties

theorem served_see {x : CacheSight α}
    (h : ∀ n k a, s.sights[n]? = some (.served k a) → IsCurrent filters s.sights n k a)
    (hx : ∀ k a, x = .served k a → IsCurrent filters s.sights s.sights.length k a) :
    ∀ n k a, (s.see x).sights[n]? = some (.served k a) →
      IsCurrent filters (s.see x).sights n k a := by
  intro n k a hn
  rcases getElem?_concat_cases hn with hn | ⟨rfl, he⟩
  · exact (h n k a hn).append (Nat.le_of_lt (List.getElem?_eq_some_iff.mp hn).1) _
  · exact (hx k a he.symm).append (Nat.le_refl _) _

variable [Sized α]

theorem Sound.of_cache (h : Sound config filters s) {cache : ResultCache α}
    (hholds : ∀ k a, cache.Holds k a → s.cache.Holds k a)
    (hgeneration : cache.generation = s.cache.generation)
    (hconfig : cache.config = s.cache.config) (hfilters : cache.filters = s.cache.filters) :
    Sound config filters { s with cache := cache } := by
  refine ⟨hconfig.trans h.config_eq, hfilters.trans h.filters_eq, ?_, ?_, h.served⟩
  · intro r hr
    obtain ⟨hseen, hle, hlast⟩ := h.reads r hr
    exact ⟨hseen, hgeneration ▸ hle, fun hg ↦ hlast (hg.trans hgeneration)⟩
  · intro k a ha
    obtain ⟨hcurrent, hsize⟩ := h.holds k a (hholds k a ha)
    exact ⟨hcurrent, by simpa only [ResultCache.isBypassed, hconfig] using hsize⟩

theorem Sound.of_eq (h : Sound config filters s) {t : SharedCache α} (hcache : t.cache = s.cache)
    (hsights : t.sights = s.sights) (hreads : ∀ r ∈ t.reads, r ∈ s.reads) :
    Sound config filters t := by
  obtain ⟨cache, clock, reads, writes, sights⟩ := t
  subst hcache hsights
  exact ⟨h.config_eq, h.filters_eq, fun r hr ↦
    have hr := h.reads r (hreads r hr)
    ⟨hr.seen, hr.generation_le, hr.last⟩, h.holds, h.served⟩

theorem Sound.see (h : Sound config filters s) {x : CacheSight α}
    (hx : x.empties filters = false)
    (hserved : ∀ k a, x = .served k a → IsCurrent filters s.sights s.sights.length k a) :
    Sound config filters (s.see x) :=
  ⟨h.config_eq, h.filters_eq, fun r hr ↦ (h.reads r hr).see hx,
    fun k a ha ↦ ⟨(h.holds k a ha).1.next hx, (h.holds k a ha).2⟩,
    served_see h.served hserved⟩

theorem Sound.empty (h : Sound config filters s) {x : CacheSight α}
    (hserved : ∀ k a, x ≠ .served k a) :
    Sound config filters ({ s with cache := s.cache.invalidate }.see x) := by
  refine ⟨h.config_eq, h.filters_eq, ?_, ?_, ?_⟩
  · intro r hr
    obtain ⟨hseen, hle, -⟩ := h.reads r hr
    refine ⟨getElem?_append_of_some hseen _, Nat.le_succ_of_le hle, fun hg ↦ ?_⟩
    simp only [SharedCache.see, ResultCache.invalidate] at hg
    omega
  · intro k a ha
    exact absurd ha (s.cache.not_holds_invalidate k a)
  · exact served_see (s := { s with cache := s.cache.invalidate }) h.served
      fun k a he ↦ absurd he (hserved k a)

theorem Sound.startRead (h : Sound config filters s) (key : CacheKey) :
    Sound config filters
      ({ s with reads := ⟨s.sights.length, key, s.cache.generation⟩ :: s.reads }.see
        (.computing key)) := by
  have hsee := h.see (x := .computing key) rfl (fun k a he ↦ nomatch he)
  refine ⟨hsee.config_eq, hsee.filters_eq, ?_, hsee.holds, hsee.served⟩
  intro r hr
  rcases List.mem_cons.mp hr with rfl | hr
  · refine ⟨List.getElem?_concat_length, Nat.le_refl _, ?_⟩
    intro _ i x hx hempties
    rcases getElem?_concat_cases hx with hx | ⟨-, rfl⟩
    · exact (List.getElem?_eq_some_iff.mp hx).1
    · cases hempties
  · exact ⟨(hsee.reads r hr).seen, (hsee.reads r hr).generation_le, (hsee.reads r hr).last⟩

theorem Sound.keep (h : Sound config filters s) {r : PendingRead} (hr : r ∈ s.reads)
    (a : α) (now : Nat) :
    Sound config filters
      ({ s with cache := s.cache.keep r.key a r.generation now }.see
        (.computed r.started (.ok a))) := by
  obtain ⟨hholds, hgeneration, hconfig, hfilters⟩ := s.cache.keep_cases r.key a r.generation now
  have hread := h.reads r hr
  have hsee := h.see (x := .computed r.started (.ok a)) rfl (fun k a he ↦ nomatch he)
  refine ⟨hconfig.trans h.config_eq, hfilters.trans h.filters_eq, ?_, ?_, hsee.served⟩
  · intro q hq
    obtain ⟨hseen, hle, hlast⟩ := hsee.reads q hq
    exact ⟨hseen, hgeneration ▸ hle, fun hg ↦ hlast (hg.trans hgeneration)⟩
  · intro k b hb
    have hsize : ∀ c, (s.cache.keep r.key a r.generation now).isBypassed c =
        s.cache.isBypassed c := fun c ↦ by simp only [ResultCache.isBypassed, hconfig]
    rcases hholds k b hb with hb | ⟨rfl, rfl, hg, hadmitted⟩
    · exact ⟨(hsee.holds k b hb).1, (hsize b).trans (hsee.holds k b hb).2⟩
    · refine ⟨⟨r.started, s.sights.length, (List.getElem?_eq_some_iff.mp hread.seen).1, ?_,
        (hread.see rfl).seen, List.getElem?_concat_length, ?_⟩, (hsize b).trans hadmitted⟩
      · simp only [SharedCache.see, List.length_append, List.length_singleton]
        omega
      · intro i x _ hx
        exact (hread.see (x := .computed r.started (.ok b)) rfl).last hg.symm i x hx

theorem Sound.endRead (h : Sound config filters s) {r : PendingRead} (hr : r ∈ s.reads)
    (outcome : Result α) (now : Nat) :
    Sound config filters
      ({ s with cache := s.cache.settle r.key outcome r.generation now }.see
        (.computed r.started outcome)) := by
  cases outcome with
  | ok a => exact h.keep hr a now
  | error e => exact h.see rfl fun k a he ↦ nomatch he

theorem Sound.lookup (h : Sound config filters s) {key : CacheKey} {now : Nat} {a? : Option α}
    {cache : ResultCache α} (he : s.cache.lookup key now = (a?, cache)) :
    Sound config filters { s with cache := cache } ∧
      ∀ a, a? = some a → IsCurrent filters s.sights s.sights.length key a := by
  obtain ⟨hanswer, hholds, hgeneration, hconfig, hfilters⟩ := s.cache.lookup_cases key now
  rw [he] at hanswer hholds hgeneration hconfig hfilters
  exact ⟨h.of_cache hholds hgeneration hconfig hfilters,
    fun a ha ↦ (h.holds key a (hanswer a ha)).1⟩

theorem Sound.afterWrite (h : Sound config filters s) (started : Nat) (method : String)
    (outcome : Result Unit) :
    Sound config filters
      ({ s with cache := s.cache.afterWrite method }.see (.wrote started method outcome)) := by
  unfold ResultCache.afterWrite ResultCache.isRefreshedBy
  split
  · exact h.empty fun k a he ↦ nomatch he
  · rename_i hm
    rw [h.filters_eq] at hm
    exact h.see (by simpa [CacheSight.empties] using hm) fun k a he ↦ nomatch he

theorem Sound.step (h : Sound config filters s) (m : CacheMoment α) :
    Sound config filters (s.step m) := by
  cases m with
  | startRead key =>
    simp only [SharedCache.step]
    split
    · rename_i a cache he
      obtain ⟨hl, hcurrent⟩ := h.lookup he
      refine hl.see rfl fun k b hb ↦ ?_
      cases hb
      exact hcurrent a rfl
    · rename_i cache he
      have hmiss : Sound config filters { s with cache := cache.countMiss } :=
        (h.lookup he).1.of_cache (fun k a ha ↦ ha) rfl rfl rfl
      exact hmiss.startRead key
  | endRead started outcome =>
    simp only [SharedCache.step]
    split
    · exact h
    · rename_i r hr
      have hend := h.endRead (List.mem_of_find?_eq_some hr) outcome s.clock.time
      exact hend.of_eq rfl rfl fun q hq ↦ List.mem_of_mem_eraseP hq
  | startWrite method =>
    have hw := h.see (x := .writing method) rfl (fun k a he ↦ nomatch he)
    exact hw.of_eq rfl rfl fun r hr ↦ hr
  | endWrite started outcome =>
    simp only [SharedCache.step]
    split
    · exact h
    · rename_i w _
      have hw := h.afterWrite w.started w.method outcome
      exact hw.of_eq rfl rfl fun r hr ↦ hr
  | get key =>
    simp only [SharedCache.step]
    split
    · rename_i a cache he
      obtain ⟨hl, hcurrent⟩ := h.lookup he
      refine hl.see rfl fun k b hb ↦ ?_
      cases hb
      exact hcurrent a rfl
    · rename_i cache he
      exact (h.lookup he).1.see rfl fun k a hb ↦ nomatch hb
  | invalidate => exact h.empty fun k a he ↦ nomatch he
  | setClock clock =>
    have hc := h.see (x := .clockSet) rfl (fun k a he ↦ nomatch he)
    exact hc.of_eq rfl rfl fun r hr ↦ hr

theorem Sound.run (h : Sound config filters s) (moments : List (CacheMoment α)) :
    Sound config filters (s.run moments) := by
  induction moments generalizing s with
  | nil => exact h
  | cons m moments ih => exact ih (h.step m)

theorem sound_create {cache : ResultCache α} {memory : Memory}
    (h : ResultCache.create config filters memory = .ok cache) (clock : Clock) :
    Sound config filters ⟨cache, clock, [], [], []⟩ := by
  obtain ⟨hconfig, hfilters⟩ := ResultCache.create_limits h
  refine ⟨hconfig, hfilters, fun r hr ↦ (by cases hr), fun k a ha ↦ ?_,
    fun n k a hn ↦ (by cases hn)⟩
  exact absurd ha (ResultCache.not_holds_create h k a)

end SharedCache

end QueryCatalog
