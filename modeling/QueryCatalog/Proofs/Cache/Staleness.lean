import QueryCatalog.Proofs.Cache.Nesting

namespace QueryCatalog

open SharedCache

variable {α : Type} [Sized α] {config : CacheConfig} {filters : List RefreshFilter}

/-- What was seen of a cache, and what it holds in the end, is of no computation that started
before the cache was last emptied. -/
structure NeverStale (config : CacheConfig) (filters : List RefreshFilter)
    (sights : List (CacheSight α)) (cache : ResultCache α) : Prop where
  served : ∀ n key value, sights[n]? = some (.served key value) →
    IsCurrent filters sights n key value
  /-- Behind a write that makes results stale, only computations are served that started later. -/
  after_write : ∀ (n w started : Nat) method outcome key value, w < n →
    sights[w]? = some (.wrote started method outcome) →
    RefreshFilter.anyMatches filters method = true →
    sights[n]? = some (.served key value) →
    ∃ begun ended : Nat, w < begun ∧ begun < ended ∧ ended < n ∧
      sights[begun]? = some (.computing key) ∧ sights[ended]? = some (.computed begun (.ok value))
  stored : ∀ key value, cache.Holds key value → IsCurrent filters sights sights.length key value
  admitted : ∀ key value, cache.Holds key value → ∀ n, Sized.size? value = some n →
    config.minSize ≤ n ∧ ∀ most, config.maxSize? = some most → n ≤ most

theorem SharedCache.Sound.neverStale {s : SharedCache α} (h : Sound config filters s) :
    NeverStale config filters s.sights s.cache := by
  refine ⟨h.served, ?_, fun k a ha ↦ (h.holds k a ha).1, ?_⟩
  · intro n w started method outcome key value hw hwrote hmatch hserved
    obtain ⟨begun, ended, hbe, hen, hbegun, hended, hlast⟩ := h.served n key value hserved
    exact ⟨begun, ended, hlast w _ hw hwrote hmatch, hbe, hen, hbegun, hended⟩
  · intro k a ha
    have hadmitted := (h.holds k a ha).2
    rw [ResultCache.isBypassed_eq_false_iff, h.config_eq] at hadmitted
    exact hadmitted

/-- The calls of several callers may interleave in any way, and each may run further steps while its
function runs, to any depth. -/
theorem cache_never_stale {cache : ResultCache α}
    (h : ResultCache.create config filters = .ok cache) (clock : Clock) :
    (∀ moments, NeverStale config filters
      (SharedCache.run moments ⟨cache, clock, [], [], []⟩).sights
      (SharedCache.run moments ⟨cache, clock, [], [], []⟩).cache) ∧
    (∀ steps, NeverStale config filters
      (CacheStep.sightsAll 0 steps (CacheStep.runAll steps (.create cache clock)).1)
      (CacheStep.runAll steps (.create cache clock)).2.cache) := by
  have hsound := sound_create h clock
  refine ⟨fun moments ↦ (hsound.run moments).neverStale, fun steps ↦ ?_⟩
  obtain ⟨-, hrun⟩ := CacheStep.runAll_interleaves steps (.create cache clock) rfl
  obtain ⟨moments, hm⟩ := hrun [] [] []
  have hend := (hsound.run moments).neverStale
  change SharedCache.run moments ⟨cache, clock, [], [], []⟩ = _ at hm
  rw [hm] at hend
  exact hend

/-- A read that a write overtakes: its result is not stored. -/
theorem cache_never_stale_across_write :
    ∃ cache : ResultCache Value,
      ResultCache.create { capacity := 1 } [.substring ['s', 'a', 'v', 'e']] = .ok cache ∧
      let s := SharedCache.run
        [.startRead ⟨"find", "1"⟩, .startWrite "save", .endWrite 1 (.ok ()),
          .endRead 0 (.ok .null), .get ⟨"find", "1"⟩] ⟨cache, ⟨0⟩, [], [], []⟩
      s.sights.map (CacheSight.empties cache.filters) = [false, false, true, false, false] ∧
      s.cache.store.size = 0 ∧
      NeverStale { capacity := 1 } [.substring ['s', 'a', 'v', 'e']] s.sights s.cache :=
  ⟨_, rfl, by decide +kernel, by decide +kernel, (cache_never_stale rfl ⟨0⟩).1 _⟩

end QueryCatalog
