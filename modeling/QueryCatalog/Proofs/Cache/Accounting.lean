import QueryCatalog.Proofs.Cache.Conservation
import QueryCatalog.Proofs.Cache.Interleaving

namespace QueryCatalog

inductive Fate
  | failed
  | bypassed
  | discarded
  | stored
  deriving DecidableEq

theorem length_eq_counts (fates : List Fate) : fates.length =
    fates.count .failed + fates.count .bypassed + fates.count .discarded + fates.count .stored := by
  induction fates with
  | nil => rfl
  | cons fate fates ih =>
    cases fate
    all_goals
      simp only [List.length_cons, List.count_cons, ih]
      simp
      omega

/-- A result is bypassed if its size is out of the limits, and discarded if the cache was emptied
while it was computed. -/
def CacheConfig.fate {α : Type} [Sized α] (config : CacheConfig) (outcome : Result α)
    (overtaken : Bool) : Fate :=
  match outcome with
  | .error _ => .failed
  | .ok a =>
    if (Sized.size? a).any fun n ↦ !config.admits n then .bypassed
    else if overtaken then .discarded else .stored

def CacheSight.isServed {α : Type} : CacheSight α → Bool
  | served _ _ => true
  | _ => false

def CacheSight.isComputing {α : Type} : CacheSight α → Bool
  | computing _ => true
  | _ => false

/-- What is seen of a cache, with what its store holds at that moment where it matters. -/
inductive CacheDeed (α : Type)
  /-- A computation ends. The cache may have been emptied while it ran, and may hold its key. -/
  | computed (started : Nat) (key : CacheKey) (outcome : Result α) (overtaken held : Bool)
  | wrote (started : Nat) (method : String) (outcome : Result Unit) (entries : Nat)
  | emptied (entries : Nat)
  | seen (sight : CacheSight α)

namespace CacheDeed

variable {α : Type}

def sight : CacheDeed α → CacheSight α
  | computed started _ outcome _ _ => .computed started outcome
  | wrote started method outcome _ => .wrote started method outcome
  | emptied _ => .emptied
  | seen sight => sight

def fate? [Sized α] (config : CacheConfig) : CacheDeed α → Option Fate
  | computed _ _ outcome overtaken _ => some (config.fate outcome overtaken)
  | _ => none

def replaces [Sized α] (config : CacheConfig) : CacheDeed α → Bool
  | computed _ _ outcome overtaken held => held && config.fate outcome overtaken == .stored
  | _ => false

def dropped (filters : List RefreshFilter) : CacheDeed α → Nat
  | wrote _ method _ entries => if RefreshFilter.anyMatches filters method then entries else 0
  | emptied entries => entries
  | _ => 0

def fates [Sized α] (config : CacheConfig) (deeds : List (CacheDeed α)) : List Fate :=
  deeds.filterMap (fate? config)

theorem fates_append [Sized α] (config : CacheConfig) (deeds deeds' : List (CacheDeed α)) :
    fates config (deeds ++ deeds') = fates config deeds ++ fates config deeds' :=
  List.filterMap_append

def entriesDropped (filters : List RefreshFilter) (deeds : List (CacheDeed α)) : Nat :=
  total (deeds.map (dropped filters))

end CacheDeed

open CacheDeed ResultCache

section Lookup

variable {α : Type}

/-- A lookup drops the entries that it counts as expired, and no others. -/
theorem lookup_size {c : ResultCache α} (h : c.store.Sound) (k : CacheKey) (now : Nat) :
    (c.lookup k now).2.store.capacity = c.store.capacity ∧
    (c.lookup k now).2.store.size + (c.lookup k now).2.counters.expirations =
      c.store.size + c.counters.expirations := by
  obtain ⟨hsound, hget⟩ := h.get k
  have hsize := Store.size_get h.shards_pos k
  have hcapacity : (c.store.get k).2.capacity = c.store.capacity := Store.capacity_modifyShard
  have hfst : (c.store.get k).1 = c.store.peek? k := rfl
  unfold lookup
  revert hsound hget hsize hcapacity hfst
  generalize c.store.get k = found
  obtain ⟨e?, store⟩ := found
  intro hsound hget hsize hcapacity hfst
  cases e? with
  | none => exact ⟨hcapacity, congrArg (· + _) hsize⟩
  | some e =>
    have hentry : store.peek? k = some e := (hget k).trans hfst.symm
    dsimp only
    cases hexpired : isExpired c.config e now with
    | true =>
      have hremoved := Store.size_removeEntry hsound.shards_pos k e.stamp
      rw [Store.removeEntry_of_peek? hentry, if_pos rfl] at hremoved
      rw [if_pos rfl, Store.removeEntry_of_peek? hentry]
      refine ⟨Store.capacity_modifyShard.trans hcapacity, ?_⟩
      dsimp only at hremoved hsize ⊢
      omega
    | false =>
      have hheld := Option.isSome_of_eq_some hentry
      let e' := { e with lastUsed := max e.lastUsed now }
      have hused := store.size_insert hsound.shards_pos k e'
      rw [Store.insert_fst_of_held hheld, if_pos hheld] at hused
      refine ⟨Store.capacity_modifyShard.trans hcapacity, ?_⟩
      have hstore : (used store k e now).size = store.size := Nat.add_right_cancel hused
      rw [if_neg Bool.false_ne_true]
      dsimp only at hsize ⊢
      omega

end Lookup

section Accounts

variable {α : Type} [Sized α]

/-- How deeds lead from one cache to another, counter by counter. -/
structure Accounts (deeds : List (CacheDeed α)) (c c' : ResultCache α) : Prop where
  config_eq : c'.config = c.config
  filters_eq : c'.filters = c.filters
  capacity_eq : c'.store.capacity = c.store.capacity
  sound : c'.store.Sound
  misses : c'.counters.misses = c.counters.misses + deeds.countP (·.sight.isComputing)
  hits : c'.counters.hits = c.counters.hits + deeds.countP (·.sight.isServed)
  bypassed : c'.counters.bypassed = c.counters.bypassed + (fates c.config deeds).count .bypassed
  generation : c'.generation = c.generation + deeds.countP (·.sight.empties c.filters)
  invalidations : c'.counters.invalidations =
    c.counters.invalidations + deeds.countP (·.sight.empties c.filters)
  balance : c'.store.size + c'.counters.evictions + c'.counters.expirations +
      entriesDropped c.filters deeds + deeds.countP (·.replaces c.config) =
    c.store.size + c.counters.evictions + c.counters.expirations +
      (fates c.config deeds).count .stored

namespace Accounts

variable {deeds deeds' : List (CacheDeed α)} {deed : CacheDeed α} {c c' c'' : ResultCache α}

theorem nil (h : c.store.Sound) : Accounts [] c c :=
  ⟨rfl, rfl, rfl, h, rfl, rfl, rfl, rfl, rfl, rfl⟩

theorem trans (h : Accounts deeds c c') (h' : Accounts deeds' c' c'') :
    Accounts (deeds ++ deeds') c c'' := by
  obtain ⟨hconfig, hfilters, hcapacity, -, hmisses, hhits, hbypassed, hgeneration, hinvalidations,
    hbalance⟩ := h
  obtain ⟨hconfig', hfilters', hcapacity', hsound', hmisses', hhits', hbypassed', hgeneration',
    hinvalidations', hbalance'⟩ := h'
  rw [hconfig] at hbypassed' hbalance' hconfig'
  rw [hfilters] at hgeneration' hinvalidations' hbalance' hfilters'
  have hdropped : entriesDropped c.filters (deeds ++ deeds') =
      entriesDropped c.filters deeds + entriesDropped c.filters deeds' := by
    rw [entriesDropped, List.map_append, total_append]
    rfl
  refine ⟨hconfig', hfilters', hcapacity'.trans hcapacity, hsound', ?_, ?_, ?_, ?_, ?_, ?_⟩
  all_goals
    simp only [List.countP_append, List.count_append, fates_append, hdropped]
    omega

theorem quiet (h : c.store.Sound) (hserved : deed.sight.isServed = false)
    (hcomputing : deed.sight.isComputing = false) (hfate : deed.fate? c.config = none)
    (hreplaces : deed.replaces c.config = false)
    (hempties : deed.sight.empties c.filters = false) (hdropped : deed.dropped c.filters = 0) :
    Accounts [deed] c c := by
  refine ⟨rfl, rfl, rfl, h, ?_, ?_, ?_, ?_, ?_, ?_⟩
  all_goals simp [hserved, hcomputing, hfate, hreplaces, hempties, fates, entriesDropped, hdropped]

theorem served (h : c.store.Sound) {k : CacheKey} {now : Nat} {a : α}
    (hl : c.lookup k now = (some a, c')) : Accounts [.seen (.served k a)] c c' := by
  obtain ⟨hsound, hlooked⟩ := lookup_looked h k now
  obtain ⟨hcapacity, hsize⟩ := lookup_size h k now
  rw [hl] at hsound hlooked hcapacity hsize
  cases hlooked
  refine ⟨rfl, rfl, hcapacity, hsound, rfl, rfl, rfl, rfl, rfl, ?_⟩
  change _ + _ + _ + 0 + 0 = _ + _ + _ + 0
  dsimp only at hsize ⊢
  omega

theorem unanswered (h : c.store.Sound) {k : CacheKey} {now : Nat}
    (hl : c.lookup k now = (none, c')) : Accounts [] c c' := by
  obtain ⟨hsound, hlooked⟩ := lookup_looked h k now
  obtain ⟨hcapacity, hsize⟩ := lookup_size h k now
  rw [hl] at hsound hlooked hcapacity hsize
  cases hlooked
  all_goals
    refine ⟨rfl, rfl, hcapacity, hsound, rfl, rfl, rfl, rfl, rfl, ?_⟩
    change _ + _ + _ + 0 + 0 = _ + _ + _ + 0
    dsimp only at hsize ⊢
    omega

theorem missed (h : c.store.Sound) {k : CacheKey} {now : Nat}
    (hl : c.lookup k now = (none, c')) : Accounts [.seen (.missed k)] c c' :=
  (quiet h rfl rfl rfl rfl rfl rfl).trans (unanswered h hl)

theorem computing (h : c.store.Sound) (k : CacheKey) :
    Accounts [.seen (.computing k)] c c.countMiss :=
  ⟨rfl, rfl, rfl, h, rfl, rfl, rfl, rfl, rfl, rfl⟩

theorem invalidated (h : c.store.Sound) (hserved : deed.sight.isServed = false)
    (hcomputing : deed.sight.isComputing = false) (hfate : deed.fate? c.config = none)
    (hreplaces : deed.replaces c.config = false)
    (hempties : deed.sight.empties c.filters = true)
    (hdropped : deed.dropped c.filters = c.store.size) : Accounts [deed] c c.invalidate := by
  have hsize : c.store.clear.2.size = 0 :=
    Store.size_of_empty fun _ ↦ Store.eq_empty_of_mem_clear
  refine ⟨rfl, rfl, c.store.capacity_clear, h.clear, ?_, ?_, ?_, ?_, ?_, ?_⟩
  all_goals simp [invalidate, hserved, hcomputing, hfate, hreplaces, hempties, fates,
    entriesDropped, hdropped, hsize]
  omega

theorem wrote (h : c.store.Sound) (n : Nat) (method : String) (outcome : Result Unit) :
    Accounts [.wrote n method outcome c.store.size] c (c.afterWrite method) := by
  rw [afterWrite, isRefreshedBy]
  cases hmatches : RefreshFilter.anyMatches c.filters method with
  | true =>
    rw [if_pos rfl]
    exact invalidated h rfl rfl rfl rfl hmatches (if_pos hmatches)
  | false =>
    rw [if_neg Bool.false_ne_true]
    exact quiet h rfl rfl rfl rfl hmatches (if_neg (Bool.eq_false_iff.mp hmatches))

section Computed

variable {n : Nat} {k : CacheKey} {outcome : Result α} {overtaken held : Bool} {fate : Fate}

theorem unstored (h : c.store.Sound) (hfate : c.config.fate outcome overtaken = fate)
    (hne : fate ≠ .stored) : Accounts [.computed n k outcome overtaken held] c { c with
      counters := { c.counters with
        bypassed := c.counters.bypassed + if fate = .bypassed then 1 else 0 } } := by
  refine ⟨rfl, rfl, rfl, h, rfl, rfl, ?_, rfl, rfl, ?_⟩
  all_goals simp [fates, fate?, replaces, entriesDropped, dropped, hfate, hne, List.count_cons]

theorem stored (h : c.store.Sound) (hfate : c.config.fate outcome overtaken = .stored)
    (e : CacheEntry α) :
    Accounts [.computed n k outcome overtaken (c.store.peek? k).isSome] c { c with
      store := (c.store.insert k e).2
      nextStamp := c.nextStamp + 1
      counters := { c.counters with
        evictions := c.counters.evictions + if (c.store.insert k e).1.isSome then 1 else 0 } } := by
  have hsize := c.store.size_insert h.shards_pos k e
  refine ⟨rfl, rfl, Store.capacity_modifyShard, (h.insert k e).1, rfl, rfl, ?_, rfl, rfl, ?_⟩
  · simp [fates, fate?, hfate]
  · simp [fates, fate?, replaces, entriesDropped, dropped, hfate]
    omega

theorem settled (h : c.store.Sound) {startedAt : Nat} (now : Nat)
    (hovertaken : overtaken = true ↔ c.generation ≠ startedAt) :
    Accounts [.computed n k outcome overtaken (c.store.peek? k).isSome] c
      (c.settle k outcome startedAt now) := by
  cases outcome with
  | error e =>
    have hfate : c.config.fate (.error e : Result α) overtaken = .failed := rfl
    exact unstored h hfate (by decide)
  | ok a =>
    rw [settle, keep]
    by_cases hbypassed : c.isBypassed a = true
    · have hfate : c.config.fate (.ok a) overtaken = .bypassed := if_pos hbypassed
      rw [if_pos hbypassed]
      exact unstored h hfate (by decide)
    have hfate : c.config.fate (.ok a) overtaken = if overtaken then .discarded else .stored :=
      if_neg hbypassed
    rw [if_neg hbypassed]
    by_cases hcurrent : c.generation ≠ startedAt
    · rw [if_pos hcurrent]
      rw [if_pos (hovertaken.mpr hcurrent)] at hfate
      exact unstored h hfate (by decide)
    · rw [if_neg hcurrent]
      rw [if_neg (mt hovertaken.mp hcurrent)] at hfate
      exact stored h hfate _

end Computed

/-- The cache has been emptied exactly if its generation is another. -/
theorem overtaken_iff (h : Accounts deeds c c') :
    deeds.any (·.sight.empties c.filters) = true ↔ c'.generation ≠ c.generation := by
  rw [List.any_eq_true, ← List.countP_pos_iff, h.generation]
  omega

end Accounts

end Accounts

end QueryCatalog
