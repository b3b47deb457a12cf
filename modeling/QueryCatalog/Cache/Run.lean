import QueryCatalog.Cache.ResultCache

namespace QueryCatalog

inductive CacheStep (α : Type)
  /-- A read whose computation, if it is needed, runs the inner steps and has the given outcome. -/
  | read (key : CacheKey) (during : List (CacheStep α)) (outcome : Result α)
  | get (key : CacheKey)
  | write (method : String) (during : List (CacheStep α)) (outcome : Result Unit)
  | invalidate
  | advance (ms : UInt64)
  | setClock (ms : UInt64)
  | isRefreshedBy (method : String)

inductive CacheReply (α : Type)
  | read (r : Result α)
  | found (a? : Option α)
  | written (r : Result Unit)
  | refreshed (b : Bool)
  | done

inductive CacheRecord (α : Type)
  /-- The reply, the records of the inner steps if the function of the step ran, and the cache
  after the step. -/
  | mk (reply : CacheReply α) (during? : Option (List (CacheRecord α))) (after : ResultCache α)

/-- A cache and its clock, and the records of the inner steps of the function that ran last. -/
abbrev CacheWorld (α : Type) := Cached α (Option (List (CacheRecord α)))

namespace CacheWorld

variable {α : Type}

def create (cache : ResultCache α) (clock : Clock) : CacheWorld α := ⟨cache, clock, none⟩

def record (reply : CacheReply α) (w : CacheWorld α) : CacheRecord α × CacheWorld α :=
  (.mk reply w.state w.cache, { w with state := none })

end CacheWorld

namespace CacheStep

variable {α : Type} [Sized α]

mutual

def run : CacheStep α → CacheWorld α → CacheRecord α × CacheWorld α
  | read key during outcome, w =>
    match Cached.read key (fun w ↦ (outcome, runInner during w)) w with
    | (r, w) => CacheWorld.record (.read r) w
  | get key, w =>
    match w.cache.lookup key w.clock.time with
    | (a?, cache) => CacheWorld.record (.found a?) { w with cache := cache }
  | write method during outcome, w =>
    match Cached.write method (fun w ↦ (outcome, runInner during w)) w with
    | (r, w) => CacheWorld.record (.written r) w
  | invalidate, w => CacheWorld.record .done { w with cache := w.cache.invalidate }
  | advance ms, w => CacheWorld.record .done { w with clock := w.clock.advance ms }
  | setClock ms, w => CacheWorld.record .done { w with clock := ⟨ms⟩ }
  | isRefreshedBy method, w => CacheWorld.record (.refreshed (w.cache.isRefreshedBy method)) w

def runInner (steps : List (CacheStep α)) (w : CacheWorld α) : CacheWorld α :=
  match runAll steps w with
  | (records, w) => { w with state := some records }

def runAll : List (CacheStep α) → CacheWorld α → List (CacheRecord α) × CacheWorld α
  | [], w => ([], w)
  | step :: steps, w =>
    match run step w with
    | (r, w) =>
      match runAll steps w with
      | (rs, w) => (r :: rs, w)

end

end CacheStep

end QueryCatalog
