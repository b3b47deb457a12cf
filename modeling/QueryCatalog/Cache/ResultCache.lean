import QueryCatalog.Cache.Config
import QueryCatalog.Cache.Store
import QueryCatalog.Execution.Statement

namespace QueryCatalog

/-- Results whose size can be limited. Others are always stored. -/
class Sized (α : Type) where
  size? : α → Option Nat

instance {α : Type} : Sized (List α) := ⟨fun l ↦ some l.length⟩

instance : Sized Value := ⟨Value.size?⟩

/-- A clock of milliseconds that moves only when it is told to; it wraps at 64 bits. -/
structure Clock where
  now : UInt64
  deriving DecidableEq, Repr, Inhabited

namespace Clock

def advance (c : Clock) (ms : UInt64) : Clock := ⟨c.now + ms⟩

def time (c : Clock) : Nat := c.now.toNat

end Clock

structure CacheCounters where
  hits : Nat := 0
  misses : Nat := 0
  evictions : Nat := 0
  expirations : Nat := 0
  invalidations : Nat := 0
  bypassed : Nat := 0
  deriving DecidableEq, Repr, Inhabited

structure ResultCache (α : Type) where
  config : CacheConfig
  filters : List RefreshFilter
  store : Store α
  generation : Nat := 0
  nextStamp : Nat := 0
  counters : CacheCounters := {}

namespace ResultCache

variable {α : Type}

def create (config : CacheConfig) (filters : List RefreshFilter)
    (memory : Memory := .unlimited) : Result (ResultCache α) := do
  config.validate
  let store ← Store.create config.capacity config.shards memory
  return { config := config, filters := filters, store := store }

def isExpired (c : CacheConfig) (e : CacheEntry α) (now : Nat) : Bool :=
  (0 < c.liveTime && c.liveTime ≤ now - e.createdAt) ||
    (0 < c.idleTime && c.idleTime ≤ now - e.lastUsed)

def used (store : Store α) (k : CacheKey) (e : CacheEntry α) (now : Nat) : Store α :=
  store.modifyShard k (·.insert k { e with lastUsed := max e.lastUsed now })

/-- Looks a key up. An entry that is too old is dropped, and counts as absent. -/
def lookup (c : ResultCache α) (k : CacheKey) (now : Nat) : Option α × ResultCache α :=
  match c.store.get k with
  | (none, store) => (none, { c with store := store })
  | (some e, store) =>
    if isExpired c.config e now then
      match store.removeEntry k e.stamp with
      | (true, store) =>
        (none, { c with
          store := store
          counters := { c.counters with expirations := c.counters.expirations + 1 } })
      | (false, store) => (none, { c with store := store })
    else
      (some e.value, { c with
        store := used store k e now
        counters := { c.counters with hits := c.counters.hits + 1 } })

def countMiss (c : ResultCache α) : ResultCache α :=
  { c with counters := { c.counters with misses := c.counters.misses + 1 } }

def isBypassed [Sized α] (c : ResultCache α) (a : α) : Bool :=
  (Sized.size? a).any fun n ↦ !c.config.admits n

/-- Stores a result, unless its size keeps it out or the cache was emptied since `startedAt`. -/
def keep [Sized α] (c : ResultCache α) (k : CacheKey) (a : α) (startedAt now : Nat) :
    ResultCache α :=
  if c.isBypassed a then
    { c with counters := { c.counters with bypassed := c.counters.bypassed + 1 } }
  else if c.generation ≠ startedAt then c
  else
    let (evicted?, store) := c.store.insert k ⟨c.nextStamp, a, now, now⟩
    let evictions := c.counters.evictions + (if evicted?.isSome then 1 else 0)
    { c with
      store := store
      nextStamp := c.nextStamp + 1
      counters := { c.counters with evictions := evictions } }

def invalidate (c : ResultCache α) : ResultCache α :=
  { c with
    store := c.store.clear.2
    generation := c.generation + 1
    counters := { c.counters with invalidations := c.counters.invalidations + 1 } }

def isRefreshedBy (c : ResultCache α) (method : String) : Bool :=
  RefreshFilter.anyMatches c.filters method

def afterWrite (c : ResultCache α) (method : String) : ResultCache α :=
  if c.isRefreshedBy method then c.invalidate else c

end ResultCache

structure Cached (α σ : Type) where
  cache : ResultCache α
  clock : Clock
  state : σ

namespace Cached

variable {α β σ : Type}

/-- Answers a read from the cache, or computes and stores it. The computation may change the cache
and the clock. -/
def read [Sized α] (k : CacheKey) (compute : Action (Cached α σ) α) : Action (Cached α σ) α :=
  fun w ↦
    match w.cache.lookup k w.clock.time with
    | (some a, cache) => (.ok a, { w with cache := cache })
    | (none, cache) =>
      let startedAt := cache.generation
      match compute { w with cache := cache.countMiss } with
      | (.error e, w) => (.error e, w)
      | (.ok a, w) => (.ok a, { w with cache := w.cache.keep k a startedAt w.clock.time })

def write (method : String) (work : Action (Cached α σ) β) : Action (Cached α σ) β := fun w ↦
  match work w with
  | (r, w) => (r, { w with cache := w.cache.afterWrite method })

def lift (m : Action σ β) : Action (Cached α σ) β := fun w ↦
  match m w.state with
  | (r, s) => (r, { w with state := s })

end Cached

end QueryCatalog
