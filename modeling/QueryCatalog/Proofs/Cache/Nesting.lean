import QueryCatalog.Proofs.Cache.Interleaving

namespace QueryCatalog

namespace CacheStep

variable {α : Type}

mutual

def sights (n : Nat) : CacheStep α → CacheRecord α → List (CacheSight α)
  | read key during _, .mk (.read r) (some records) _ =>
    .computing key :: (sightsAll (n + 1) during records ++ [.computed n r])
  | read key _ _, .mk (.read (.ok a)) none _ => [.served key a]
  | get key, .mk (.found (some a)) _ _ => [.served key a]
  | get key, .mk (.found none) _ _ => [.missed key]
  | write method during _, .mk (.written r) (some records) _ =>
    .writing method :: (sightsAll (n + 1) during records ++ [.wrote n method r])
  | invalidate, _ => [.emptied]
  | advance _, _ => [.clockSet]
  | setClock _, _ => [.clockSet]
  | _, _ => []

def sightsAll (n : Nat) : List (CacheStep α) → List (CacheRecord α) → List (CacheSight α)
  | step :: steps, r :: rs =>
    sights n step r ++ sightsAll (n + (sights n step r).length) steps rs
  | _, _ => []

end

/-- Moments of a shared cache lead from one world to another, whatever calls are under way, and
show the given sights. -/
def Interleaves [Sized α] (w w' : CacheWorld α) (seen : Nat → List (CacheSight α)) : Prop :=
  ∀ reads writes before, ∃ moments,
    SharedCache.run moments ⟨w.cache, w.clock, reads, writes, before⟩ =
      ⟨w'.cache, w'.clock, reads, writes, before ++ seen before.length⟩

variable [Sized α]

theorem Interleaves.one {w w' : CacheWorld α} {x : CacheSight α} (m : CacheMoment α)
    (h : ∀ reads writes before, SharedCache.step m ⟨w.cache, w.clock, reads, writes, before⟩ =
      ⟨w'.cache, w'.clock, reads, writes, before ++ [x]⟩) : Interleaves w w' fun _ ↦ [x] :=
  fun reads writes before ↦ ⟨[m], h reads writes before⟩

theorem run_append (moments moments' : List (CacheMoment α)) (s : SharedCache α) :
    s.run (moments ++ moments') = (s.run moments).run moments' := List.foldl_append

theorem Interleaves.trans {w w' w'' : CacheWorld α} {f g : Nat → List (CacheSight α)}
    (h : Interleaves w w' f) (h' : Interleaves w' w'' g) :
    Interleaves w w'' fun n ↦ f n ++ g (n + (f n).length) := by
  intro reads writes before
  obtain ⟨moments, hm⟩ := h reads writes before
  obtain ⟨moments', hm'⟩ := h' reads writes (before ++ f before.length)
  refine ⟨moments ++ moments', ?_⟩
  rw [run_append, hm, hm', List.length_append, List.append_assoc]

theorem Interleaves.read {w w' : CacheWorld α} {seen : Nat → List (CacheSight α)}
    {key : CacheKey} {cache : ResultCache α}
    (hmiss : w.cache.lookup key w.clock.time = (none, cache))
    (h : Interleaves { w with cache := cache.countMiss } w' seen) (outcome : Result α) :
    Interleaves w
      { w' with cache := w'.cache.settle key outcome cache.generation w'.clock.time }
      fun n ↦ .computing key :: (seen (n + 1) ++ [.computed n outcome]) := by
  intro reads writes before
  obtain ⟨moments, hm⟩ :=
    h (⟨before.length, key, cache.generation⟩ :: reads) writes (before ++ [.computing key])
  refine ⟨.startRead key :: (moments ++ [.endRead before.length outcome]), ?_⟩
  have hstart : SharedCache.step (.startRead key) ⟨w.cache, w.clock, reads, writes, before⟩ =
      ⟨cache.countMiss, w.clock, ⟨before.length, key, cache.generation⟩ :: reads, writes,
        before ++ [.computing key]⟩ := by
    simp only [SharedCache.step, hmiss, SharedCache.see]
  rw [SharedCache.run, List.foldl_cons, hstart]
  change SharedCache.run (moments ++ _) _ = _
  rw [run_append, hm]
  simp [SharedCache.run, SharedCache.step, SharedCache.see]

theorem Interleaves.write {w w' : CacheWorld α} {seen : Nat → List (CacheSight α)}
    (h : Interleaves w w' seen) (method : String) (outcome : Result Unit) :
    Interleaves w { w' with cache := w'.cache.afterWrite method }
      fun n ↦ .writing method :: (seen (n + 1) ++ [.wrote n method outcome]) := by
  intro reads writes before
  obtain ⟨moments, hm⟩ := h reads (⟨before.length, method⟩ :: writes) (before ++ [.writing method])
  refine ⟨.startWrite method :: (moments ++ [.endWrite before.length outcome]), ?_⟩
  rw [SharedCache.run, List.foldl_cons]
  change SharedCache.run (moments ++ _) ⟨w.cache, w.clock, reads,
    ⟨before.length, method⟩ :: writes, before ++ [.writing method]⟩ = _
  rw [run_append, hm]
  simp [SharedCache.run, SharedCache.step, SharedCache.see]

def StepInterleaves (step : CacheStep α) : Prop :=
  ∀ w : CacheWorld α, w.state = none → (step.run w).2.state = none ∧
    Interleaves w (step.run w).2 fun n ↦ step.sights n (step.run w).1

def StepsInterleave (steps : List (CacheStep α)) : Prop :=
  ∀ w : CacheWorld α, w.state = none → (runAll steps w).2.state = none ∧
    Interleaves w (runAll steps w).2 fun n ↦ sightsAll n steps (runAll steps w).1

theorem read_interleaves (key : CacheKey) {during : List (CacheStep α)}
    (h : StepsInterleave during) (outcome : Result α) :
    StepInterleaves (read key during outcome) := by
  intro w hw
  cases hl : w.cache.lookup key w.clock.time with
  | mk a? cache =>
    cases a? with
    | some a =>
      rw [run_read_of_some hl, CacheWorld.record, hw]
      exact ⟨rfl, .one (.startRead key) fun _ _ _ ↦ by simp only [SharedCache.step, hl]; rfl⟩
    | none =>
      obtain ⟨-, hduring⟩ := h { w with cache := cache.countMiss } hw
      rw [run_read_of_none hl, runInner]
      exact ⟨rfl, hduring.read hl outcome⟩

theorem get_interleaves (key : CacheKey) : StepInterleaves (get key : CacheStep α) := by
  intro w hw
  cases hl : w.cache.lookup key w.clock.time with
  | mk a? cache =>
    have hrun : (get key).run w =
        (.mk (.found a?) none cache, { w with cache := cache, state := none }) := by
      simp only [run, hl, CacheWorld.record, hw]
    rw [hrun]
    cases a?
    all_goals
      exact ⟨rfl, .one (.get key) fun _ _ _ ↦ by simp only [SharedCache.step, hl]; rfl⟩

theorem write_interleaves (method : String) {during : List (CacheStep α)}
    (h : StepsInterleave during) (outcome : Result Unit) :
    StepInterleaves (write method during outcome) := by
  intro w hw
  obtain ⟨-, hduring⟩ := h w hw
  rw [run, Cached.write, runInner]
  exact ⟨rfl, hduring.write method outcome⟩

mutual

theorem run_interleaves : ∀ step : CacheStep α, StepInterleaves step
  | read key during outcome => read_interleaves key (runAll_interleaves during) outcome
  | get key => get_interleaves key
  | write method during outcome => write_interleaves method (runAll_interleaves during) outcome
  | invalidate => fun _ _ ↦ by
    rw [run]
    exact ⟨rfl, .one .invalidate fun _ _ _ ↦ rfl⟩
  | advance ms => fun w _ ↦ by
    rw [run]
    exact ⟨rfl, .one (.setClock (w.clock.advance ms)) fun _ _ _ ↦ rfl⟩
  | setClock ms => fun _ _ ↦ by
    rw [run]
    exact ⟨rfl, .one (.setClock ⟨ms⟩) fun _ _ _ ↦ rfl⟩
  | isRefreshedBy _ => fun _ _ ↦ by
    rw [run]
    exact ⟨rfl, fun _ _ before ↦ ⟨[], by simp [SharedCache.run, sights, CacheWorld.record]⟩⟩

theorem runAll_interleaves : ∀ steps : List (CacheStep α), StepsInterleave steps
  | [] => fun w hw ↦ by
    rw [runAll]
    exact ⟨hw, fun _ _ before ↦ ⟨[], by simp [sightsAll, SharedCache.run]⟩⟩
  | step :: steps => fun w hw ↦ by
    obtain ⟨hstate, hstep⟩ := run_interleaves step w hw
    obtain ⟨hstate', hsteps⟩ := runAll_interleaves steps (step.run w).2 hstate
    simp only [runAll, sightsAll]
    exact ⟨hstate', hstep.trans hsteps⟩

end

end CacheStep

end QueryCatalog
